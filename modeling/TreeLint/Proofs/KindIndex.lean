import Mathlib.Data.List.Basic
import TreeLint.Registry

/-!
# The detectors for a kind

The index of a registry is filled in one pass over the detectors, and a detector is noted once for a
kind however often it lists it.

**Theorem** (`Registry.detectorsFor_eq`). The detectors for a kind are those that list it, in the
order of registration.

`KindIndex.places_note` says what one note adds to the places of a kind, and `places_foldl` what a
pass over detectors adds: every place is beyond those that are there already, so that each detector
adds its own once.
-/

namespace TreeLint

namespace KindIndex

variable {ix : KindIndex} {place : Nat}

theorem places_cons (j k : Kind) (js : List Nat) (rest : KindIndex) :
    places ((j, js) :: rest) k = if k = j then js else rest.places k := by
  rw [places, List.lookup_cons]
  by_cases hk : k = j
  · simp [hk]
  · have hne : (k == j) = false := by simpa using hk
    simp [places, hk, hne]

theorem places_note (ix : KindIndex) (place : Nat) (kind k : Kind) :
    (ix.note place kind).places k =
      if k = kind ∧ place ∉ ix.places k then ix.places k ++ [place] else ix.places k := by
  induction ix with
  | nil =>
    have hnone : places [] k = [] := rfl
    rw [note, places_cons, hnone]
    by_cases hk : k = kind <;> simp [hk]
  | cons entry rest ih =>
    obtain ⟨j, js⟩ := entry
    rw [note, places_cons]
    by_cases hkind : j = kind
    · subst hkind
      by_cases hk : k = j
      · by_cases hplace : place ∈ js <;> simp [places_cons, hk, hplace]
      · simp [places_cons, hk]
    · rw [if_neg (by simpa using hkind), places_cons, ih]
      by_cases hk : k = j
      · have hother : k ≠ kind := fun h => hkind (hk.symm.trans h)
        simp [hk, hkind]
      · simp [hk]

/-- The notes of one detector, which is not there yet: it is noted once for a kind that it lists. -/
theorem places_foldl_note {k : Kind} (kinds : List Kind) (hplace : place ∉ ix.places k) :
    (kinds.foldl (·.note place ·) ix).places k =
      if k ∈ kinds then ix.places k ++ [place] else ix.places k := by
  -- Once it is noted for the kind, nothing changes any more.
  have hnoted : ∀ (kinds : List Kind) (ix : KindIndex), place ∈ ix.places k →
      (kinds.foldl (·.note place ·) ix).places k = ix.places k := by
    intro kinds
    induction kinds with
    | nil => exact fun _ _ => rfl
    | cons kind kinds ih =>
      intro ix hin
      have hsame : (ix.note place kind).places k = ix.places k := by
        rw [places_note, if_neg (fun h => h.2 hin)]
      rw [List.foldl_cons, ih _ (hsame ▸ hin), hsame]
  induction kinds generalizing ix with
  | nil => rfl
  | cons kind kinds ih =>
    rw [List.foldl_cons]
    by_cases hk : k = kind
    · have hadded : (ix.note place kind).places k = ix.places k ++ [place] := by
        rw [places_note, if_pos ⟨hk, hplace⟩]
      rw [hnoted _ _ (by simp [hadded]), hadded, if_pos (by simp [hk])]
    · have hsame : (ix.note place kind).places k = ix.places k := by
        rw [places_note, if_neg (fun h => hk h.1)]
      rw [ih (hsame ▸ hplace), hsame]
      simp [hk]

end KindIndex

namespace Registry

variable {n : Nat} {ix : KindIndex} {kind : Kind}

/-- A pass over detectors whose places start at `n`, beyond those in the index. -/
theorem places_foldl (ds : List Detector) (hix : ∀ i ∈ ix.places kind, i < n) :
    ((ds.zipIdx n).foldl (fun ix (d, place) => d.kinds.foldl (·.note place ·) ix) ix).places kind =
      ix.places kind ++ ((ds.zipIdx n).filter fun (d, _) => d.kinds.contains kind).map Prod.snd := by
  induction ds generalizing n ix with
  | nil => simp
  | cons d ds ih =>
    have hplace : n ∉ ix.places kind := fun hin => Nat.lt_irrefl n (hix n hin)
    have hnotes := KindIndex.places_foldl_note d.kinds hplace
    rw [List.zipIdx_cons, List.foldl_cons]
    by_cases hlists : kind ∈ d.kinds
    · rw [if_pos hlists] at hnotes
      rw [ih, hnotes]
      · simp [hlists]
      · intro i hi
        rw [hnotes] at hi
        obtain hi | hi := List.mem_append.1 hi
        · exact Nat.lt_succ_of_lt (hix i hi)
        · obtain rfl := List.mem_singleton.1 hi
          exact Nat.lt_succ_self i
    · rw [if_neg hlists] at hnotes
      rw [ih, hnotes]
      · simp [hlists]
      · intro i hi
        exact Nat.lt_succ_of_lt (hix i (hnotes ▸ hi))

/-- The index has for a kind the places of the detectors that list it, in order. -/
theorem places_index (g : Registry) (kind : Kind) :
    g.index.places kind =
      (g.detectors.zipIdx.filter fun (d, _) => d.kinds.contains kind).map Prod.snd := by
  have hnone : ∀ i ∈ KindIndex.places [] kind, i < 0 := fun i hi => absurd hi List.not_mem_nil
  exact (places_foldl g.detectors hnone).trans (List.nil_append _)

theorem detectorsFor_eq (g : Registry) (kind : Kind) :
    g.detectorsFor kind = g.detectors.filter (·.kinds.contains kind) := by
  have hfound : ∀ found ∈ g.detectors.zipIdx.filter fun (d, _) => d.kinds.contains kind,
      g.detectors[found.2]? = some found.1 := by
    intro found hmem
    exact List.mem_zipIdx_iff_getElem?.1 (List.mem_filter.1 hmem).1
  calc g.detectorsFor kind
      = (g.detectors.zipIdx.filter fun (d, _) => d.kinds.contains kind).filterMap
          (fun found => g.detectors[found.2]?) := by
        rw [detectorsFor, places_index, List.filterMap_map]
        rfl
    _ = (g.detectors.zipIdx.filter fun (d, _) => d.kinds.contains kind).filterMap
          (fun found => some found.1) := List.filterMap_congr hfound
    _ = (g.detectors.zipIdx.map Prod.fst).filter (·.kinds.contains kind) := by
        rw [List.filterMap_eq_map', List.filter_map]
        rfl
    _ = g.detectors.filter (·.kinds.contains kind) := by rw [List.zipIdx_map_fst]

theorem mem_detectorsFor_iff {g : Registry} {d : Detector} :
    d ∈ g.detectorsFor kind ↔ d ∈ g.detectors ∧ kind ∈ d.kinds := by
  rw [detectorsFor_eq, List.mem_filter, List.contains_iff_mem]

end Registry

end TreeLint
