import MtxClient.Json.Text

/-!
# Well-formed values

What `json::parse` delivers has sorted keys and strings that are UTF-8 (`Json.wf`).  So have the
members of such a value and what is made of it by assigning members.
-/

set_option autoImplicit false

namespace Mtx

open Str

namespace Json

variable {j v : Json} {k : Str}

theorem sorted_object_iff {ms : List (Str × Json)} : (object ms).sorted = true ↔
    AssocList.Sorted ms ∧ ∀ e ∈ ms, e.2.sorted = true := by
  simp [sorted, sortedMembers_iff]

theorem sorted_array_iff {xs : List Json} :
    (array xs).sorted = true ↔ ∀ x ∈ xs, x.sorted = true := by
  have hlist : sortedList xs = true ↔ ∀ x ∈ xs, x.sorted = true := by
    induction xs with
    | nil => simp [sortedList]
    | cons x xs ih => simp [sortedList, ih]
  rw [sorted, hlist]

theorem wf_object_iff {ms : List (Str × Json)} : (object ms).wf = true ↔
    AssocList.Sorted ms ∧ ∀ e ∈ ms, Str.validUtf8 e.1 = true ∧ e.2.wf = true := by
  simp only [wf, Bool.and_eq_true, sorted_object_iff, validUtf8, validUtf8Members_iff]
  constructor
  · rintro ⟨⟨hs, hsorted⟩, hvalid⟩
    exact ⟨hs, fun e he ↦ ⟨(hvalid e he).1, hsorted e he, (hvalid e he).2⟩⟩
  · rintro ⟨hs, h⟩
    exact ⟨⟨hs, fun e he ↦ (h e he).2.1⟩, fun e he ↦ ⟨(h e he).1, (h e he).2.2⟩⟩

theorem wf_array_iff {xs : List Json} : (array xs).wf = true ↔ ∀ x ∈ xs, x.wf = true := by
  simp only [wf, Bool.and_eq_true, sorted_array_iff, validUtf8, validUtf8List_iff]
  exact ⟨fun h x hx ↦ ⟨h.1 x hx, h.2 x hx⟩, fun h ↦ ⟨fun x hx ↦ (h x hx).1, fun x hx ↦ (h x hx).2⟩⟩

@[simp] theorem wf_null : null.wf = true := rfl

@[simp] theorem wf_boolean (b : Bool) : (boolean b).wf = true := rfl

@[simp] theorem wf_string (s : Str) : (string s).wf = Str.validUtf8 s := rfl

theorem validUtf8_of_wf (h : j.wf = true) : j.validUtf8 = true := (Bool.and_eq_true_iff.mp h).2

theorem wf_of_find? (h : j.wf = true) (hv : j.find? k = some v) : v.wf = true := by
  obtain ⟨hs, hvalid⟩ := Bool.and_eq_true_iff.mp h
  exact Bool.and_eq_true_iff.mpr ⟨sorted_of_find? hs hv, validUtf8_of_find? hvalid hv⟩

/-! ## Assigning members -/

theorem sorted_put (h : j.sorted = true) (k : Str) (hv : v.sorted = true) :
    (j.put k v).sorted = true := by
  rcases j with - | b | i | u | f | s | xs | ms
  case null =>
    exact sorted_object_iff.mpr
      ⟨List.pairwise_singleton _ _, List.forall_mem_singleton.mpr hv⟩
  case object =>
    obtain ⟨hs, hms⟩ := sorted_object_iff.mp h
    refine sorted_object_iff.mpr ⟨hs.insert k v, fun e he ↦ ?_⟩
    rcases AssocList.mem_insert he with rfl | he
    · exact hv
    · exact hms e he
  all_goals exact h

theorem wf_put (h : j.wf = true) (hk : Str.validUtf8 k = true) (hv : v.wf = true) :
    (j.put k v).wf = true := by
  obtain ⟨hs, hvalid⟩ := Bool.and_eq_true_iff.mp h
  obtain ⟨hvs, hvvalid⟩ := Bool.and_eq_true_iff.mp hv
  exact Bool.and_eq_true_iff.mpr ⟨sorted_put hs k hvs, validUtf8_put hvalid hk hvvalid⟩

/-- A property that the members of a value have with it, and that is kept when members with the
keys `K` are assigned. -/
structure Hereditary (K : Str → Prop) (P : Json → Prop) : Prop where
  null : P null
  find? : ∀ {j v : Json} {k : Str}, P j → j.find? k = some v → P v
  put : ∀ {j v : Json} {k : Str}, P j → K k → P v → P (j.put k v)

theorem hereditary_sorted : Hereditary (fun _ ↦ True) fun j ↦ j.sorted = true where
  null := rfl
  find? := sorted_of_find?
  put h _ hv := sorted_put h _ hv

theorem hereditary_wf : Hereditary (fun k ↦ Str.validUtf8 k = true) fun j ↦ j.wf = true where
  null := rfl
  find? := wf_of_find?
  put := wf_put

namespace Hereditary

variable {K : Str → Prop} {P : Json → Prop} (H : Hereditary K P)

include H

theorem getD_find? (h : P j) (k : Str) : P ((j.find? k).getD Json.null) := by
  rcases hv : j.find? k with - | v
  · exact H.null
  · exact H.find? h hv

theorem set {j' : Json} (h : P j) (hk : K k) (hv : P v) (hset : j.set k v = .ok j') : P j' := by
  rcases j with - | b | i | u | f | s | xs | ms
  case null | object =>
    rw [← Except.ok.inj hset]
    exact H.put h hk hv
  all_goals cases hset

theorem setPath {ks : List Str} {j' : Json} (h : P j) (hks : ∀ k ∈ ks, K k) (hv : P v)
    (hset : j.setPath ks v = .ok j') : P j' := by
  induction ks generalizing j j' with
  | nil => rwa [← Except.ok.inj hset]
  | cons k ks ih =>
    obtain ⟨hk, hks⟩ := List.forall_mem_cons.mp hks
    rcases j with - | b | i | u | f | s | xs | ms
    case null | object =>
      obtain ⟨c, hc, hj'⟩ := bind_eq_ok_iff.mp hset
      rw [← Except.ok.inj hj']
      exact H.put h hk (ih (H.getD_find? h k) hks hc)
    all_goals cases hset

theorem copyMember {src dst j' : Json} (hsrc : P src) (hdst : P dst) (hk : K k)
    (h : src.copyMember dst k = .ok j') : P j' := by
  rw [Json.copyMember] at h
  rcases hv : src.find? k with - | v
  · rw [hv] at h
    rwa [← Except.ok.inj h]
  · rw [hv] at h
    exact H.set hdst hk (H.find? hsrc hv) h

end Hereditary

/-! ## Objects that are written member by member -/

theorem wf_ofMembers {m : SortedMap Str Json}
    (h : m.All fun k v ↦ Str.validUtf8 k = true ∧ v.wf = true) : (ofMembers m).wf = true := by
  rw [ofMembers]
  split
  · rfl
  · exact wf_object_iff.mpr ⟨m.sorted, fun e he ↦ h e.1 e.2 (SortedMap.mem_entries_iff.mp he)⟩

end Json

end Mtx
