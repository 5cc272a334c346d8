/-!
# Sets of names

A finite set of names, kept as the list of its members in increasing order of code points. Sets with
the same members are equal, whatever the order and number of insertions.
-/

namespace PersistedDocument

/-- A finite set of names. -/
structure NameSet where
  /-- The members, each before all greater ones. -/
  members : List String
  /-- The members increase strictly. -/
  increasing : members.Pairwise (· < ·)
deriving DecidableEq

namespace NameSet

/-- The set without members. -/
def empty : NameSet := ⟨[], .nil⟩

instance : Inhabited NameSet := ⟨empty⟩

instance : Membership String NameSet := ⟨fun s n => n ∈ s.members⟩

theorem mem_def {n : String} {s : NameSet} : n ∈ s ↔ n ∈ s.members := Iff.rfl

/-- Puts a name in its place among increasing names, unless it is there. -/
def place (n : String) : List String → List String
  | [] => [n]
  | m :: ms => if n < m then n :: m :: ms else if n = m then m :: ms else m :: place n ms

theorem mem_place {x n : String} {ms : List String} : x ∈ place n ms ↔ x = n ∨ x ∈ ms := by
  induction ms with
  | nil => simp [place]
  | cons m ms ih =>
    simp only [place]
    split
    · simp
    · split
      · next h => simp [h]
      · simp only [List.mem_cons, ih]
        constructor <;> (intro h; rcases h with h | h | h <;> simp [h])

theorem pairwise_place {n : String} {ms : List String} (h : ms.Pairwise (· < ·)) :
    (place n ms).Pairwise (· < ·) := by
  induction ms with
  | nil => simp [place]
  | cons m ms ih =>
    rw [List.pairwise_cons] at h
    simp only [place]
    split
    · next hlt =>
      refine List.pairwise_cons.2 ⟨fun x hx => ?_, List.pairwise_cons.2 h⟩
      rcases List.mem_cons.1 hx with rfl | hx
      · exact hlt
      · exact String.lt_trans hlt (h.1 x hx)
    · split
      · exact List.pairwise_cons.2 h
      · next hlt hne =>
        refine List.pairwise_cons.2 ⟨fun x hx => ?_, ih h.2⟩
        rcases mem_place.1 hx with rfl | hx
        · exact Decidable.byContradiction fun hc => hne (String.le_antisymm hc hlt)
        · exact h.1 x hx

/-- A set with one more member. -/
def insert (n : String) (s : NameSet) : NameSet := ⟨place n s.members, pairwise_place s.increasing⟩

/-- A set with the names of a list as further members. -/
def insertAll (ns : List String) (s : NameSet) : NameSet := ns.foldl (fun s n => s.insert n) s

/-- The set of the names in a list. -/
def ofList (ns : List String) : NameSet := empty.insertAll ns

@[simp] theorem mem_insert {x n : String} {s : NameSet} : x ∈ s.insert n ↔ x = n ∨ x ∈ s :=
  mem_place

@[simp] theorem mem_insertAll {x : String} {ns : List String} {s : NameSet} :
    x ∈ s.insertAll ns ↔ x ∈ ns ∨ x ∈ s := by
  induction ns generalizing s with
  | nil => simp [insertAll]
  | cons n ns ih =>
    have h : s.insertAll (n :: ns) = (s.insert n).insertAll ns := rfl
    rw [h, ih, mem_insert, List.mem_cons, or_left_comm, or_assoc]

@[simp] theorem mem_ofList {x : String} {ns : List String} : x ∈ ofList ns ↔ x ∈ ns := by
  rw [ofList, mem_insertAll]
  simp [mem_def, empty]

/-- Only one list of given names increases. -/
theorem eq_of_increasing {ms ms' : List String} (h : ms.Pairwise (· < ·))
    (h' : ms'.Pairwise (· < ·)) (hmem : ∀ n, n ∈ ms ↔ n ∈ ms') : ms = ms' := by
  have hnodup {ns : List String} (hns : ns.Pairwise (· < ·)) : ns.Nodup :=
    List.Pairwise.imp String.ne_of_lt hns
  have hperm := (List.perm_ext_iff_of_nodup (hnodup h) (hnodup h')).2 hmem
  refine hperm.eq_of_pairwise (fun m n _ _ hlt hgt => ?_) h h'
  exact absurd (String.lt_trans hlt hgt) (String.lt_irrefl m)

@[ext] theorem ext {s s' : NameSet} (h : ∀ n, n ∈ s ↔ n ∈ s') : s = s' := by
  obtain ⟨ms, hms⟩ := s
  obtain ⟨ms', hms'⟩ := s'
  obtain rfl := eq_of_increasing hms hms' h
  rfl

end NameSet

end PersistedDocument
