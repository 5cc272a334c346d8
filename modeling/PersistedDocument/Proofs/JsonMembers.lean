import PersistedDocument.Json.Value

/-!
# Proofs: the members of JSON objects

An object that is written with a name more than once is taken to have it once: in the place where it
is first, and with the value that it has last.
-/

namespace PersistedDocument.Json

variable {n : LooseText} {v : Json} {ms : List (LooseText × Json)}

/-! ## One member -/

theorem map_fst_setMember (n : LooseText) (v : Json) (ms : List (LooseText × Json)) :
    (setMember n v ms).map Prod.fst
      = if n ∈ ms.map Prod.fst then ms.map Prod.fst else ms.map Prod.fst ++ [n] := by
  induction ms with
  | nil => rfl
  | cons m ms ih =>
    rw [setMember]
    by_cases hm : m.1 = n
    · rw [if_pos hm, if_pos (hm ▸ List.mem_cons_self)]
      rfl
    · rw [if_neg hm, List.map_cons, ih, List.map_cons]
      have hiff : n ∈ m.1 :: ms.map Prod.fst ↔ n ∈ ms.map Prod.fst :=
        List.mem_cons.trans (or_iff_right (Ne.symm hm))
      simp only [hiff]
      split <;> rfl

theorem setMember_of_not_mem (h : n ∉ ms.map Prod.fst) : setMember n v ms = ms ++ [(n, v)] := by
  induction ms with
  | nil => rfl
  | cons m ms ih =>
    obtain ⟨hne, hmore⟩ := not_or.1 (mt List.mem_cons.2 h)
    rw [setMember, if_neg (Ne.symm hne), ih hmore]
    rfl

theorem mem_of_mem_setMember {m : LooseText × Json} (h : m ∈ setMember n v ms) :
    m = (n, v) ∨ m ∈ ms := by
  induction ms with
  | nil => exact .inl (List.mem_singleton.1 h)
  | cons m' ms ih =>
    rw [setMember] at h
    split at h
    · next hn =>
      rcases List.mem_cons.1 h with rfl | h
      · exact .inl (by rw [hn])
      · exact .inr (List.mem_cons_of_mem _ h)
    · rcases List.mem_cons.1 h with rfl | h
      · exact .inr List.mem_cons_self
      · exact (ih h).imp id (List.mem_cons_of_mem _)

theorem nodup_setMember (h : (ms.map Prod.fst).Nodup) :
    ((setMember n v ms).map Prod.fst).Nodup := by
  rw [map_fst_setMember]
  split
  · exact h
  · next hn =>
    refine List.nodup_append.2 ⟨h, List.pairwise_singleton _ n, ?_⟩
    rintro x hx y hy rfl
    exact hn (List.mem_singleton.1 hy ▸ hx)

theorem lookup_cons_eq (x : LooseText) (m : LooseText × Json) (ms : List (LooseText × Json)) :
    (m :: ms).lookup x = if x = m.1 then some m.2 else ms.lookup x := by
  rw [List.lookup_cons]
  by_cases hx : x = m.1
  · rw [if_pos hx, hx, beq_self_eq_true]
  · rw [if_neg hx, beq_false_of_ne hx]

theorem lookup_setMember (x : LooseText) :
    (setMember n v ms).lookup x = if x = n then some v else ms.lookup x := by
  induction ms with
  | nil => exact lookup_cons_eq x (n, v) []
  | cons m ms ih =>
    rw [setMember]
    by_cases hm : m.1 = n
    · rw [if_pos hm, lookup_cons_eq, lookup_cons_eq, hm]
      split <;> rfl
    · rw [if_neg hm, lookup_cons_eq, lookup_cons_eq, ih]
      split
      · next hx => rw [if_neg (hx ▸ hm)]
      · rfl

/-! ## All members -/

/-- Only what is written becomes a member. -/
theorem mem_of_mem_dedupe {m : LooseText × Json} (h : m ∈ dedupe ms) : m ∈ ms := by
  have hfold (ms acc : List (LooseText × Json))
      (h : m ∈ ms.foldl (fun acc m => setMember m.1 m.2 acc) acc) : m ∈ acc ∨ m ∈ ms := by
    induction ms generalizing acc with
    | nil => exact .inl h
    | cons m' ms ih =>
      rcases ih _ h with h | h
      · rcases mem_of_mem_setMember h with rfl | h
        · exact .inr List.mem_cons_self
        · exact .inl h
      · exact .inr (List.mem_cons_of_mem _ h)
  exact (hfold ms [] h).resolve_left List.not_mem_nil

theorem nodup_dedupe (ms : List (LooseText × Json)) : ((dedupe ms).map Prod.fst).Nodup := by
  have hfold (acc : List (LooseText × Json)) (hacc : (acc.map Prod.fst).Nodup) :
      ((ms.foldl (fun acc m => setMember m.1 m.2 acc) acc).map Prod.fst).Nodup := by
    induction ms generalizing acc with
    | nil => exact hacc
    | cons m ms ih => exact ih _ (nodup_setMember hacc)
  exact hfold [] List.nodup_nil

/-- The value of a name is the one that is written last for it. -/
theorem lookup_dedupe (x : LooseText) (ms : List (LooseText × Json)) :
    (dedupe ms).lookup x = ms.reverse.lookup x := by
  have hfold (acc : List (LooseText × Json)) :
      (ms.foldl (fun acc m => setMember m.1 m.2 acc) acc).lookup x
        = (ms.reverse.lookup x).or (acc.lookup x) := by
    induction ms generalizing acc with
    | nil => rfl
    | cons m ms ih =>
      rw [List.foldl_cons, ih, lookup_setMember, List.reverse_cons, List.lookup_append,
        Option.or_assoc, lookup_cons_eq]
      split <;> rfl
  exact (hfold []).trans (Option.or_none ..)

/-- Members with different names are kept as they are. -/
theorem dedupe_of_nodup (h : (ms.map Prod.fst).Nodup) : dedupe ms = ms := by
  have hfold (acc more : List (LooseText × Json))
      (hdistinct : ((acc ++ more).map Prod.fst).Nodup) :
      more.foldl (fun acc m => setMember m.1 m.2 acc) acc = acc ++ more := by
    induction more generalizing acc with
    | nil => exact (List.append_nil acc).symm
    | cons m more ih =>
      have hnew : m.1 ∉ acc.map Prod.fst := by
        intro hm
        rw [List.map_append, List.nodup_append] at hdistinct
        exact hdistinct.2.2 _ hm _ List.mem_cons_self rfl
      rw [List.foldl_cons, setMember_of_not_mem hnew,
        ih _ (by rwa [List.append_assoc, List.singleton_append]), List.append_assoc]
      rfl
  exact hfold [] ms h

/-! ## Ordinary names -/

theorem ofString_injective {s s' : String} (h : LooseText.ofString s = LooseText.ofString s') :
    s = s' := by
  have hback := congrArg LooseText.toString? h
  rw [LooseText.toString?_ofString, LooseText.toString?_ofString] at hback
  exact Option.some.inj hback

theorem member?_ofFields (fields : List (String × Json)) (name : String) :
    (ofFields fields).member? name = fields.lookup name := by
  show (fields.map fun f => (LooseText.ofString f.1, f.2)).lookup (.ofString name)
    = fields.lookup name
  induction fields with
  | nil => rfl
  | cons f fields ih =>
    rw [List.map_cons, List.lookup_cons, List.lookup_cons, ih]
    have hsame : (LooseText.ofString name == LooseText.ofString f.1) = (name == f.1) := by
      rw [Bool.eq_iff_iff, beq_iff_eq, beq_iff_eq]
      exact ⟨fun h => ofString_injective h, fun h => congrArg LooseText.ofString h⟩
    rw [hsame]

end PersistedDocument.Json
