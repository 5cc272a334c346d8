import Mathlib
import PersistedDocument.Proofs.JsonNumbers
import PersistedDocument.Url.Basic

/-!
# Proofs: user information in addresses

An address that says nothing about who asks goes on saying nothing when its query is replaced. The
at sign that would end such information stands nowhere else in an authority: what is read as a host
comes after the last one, and no normal form puts one into a host.
-/

namespace PersistedDocument

/-! ## What escaping leaves -/

namespace Percent

theorem mem_escapeCharacter {c d : Char} (h : d ∈ escapeCharacter c) :
    d = '%' ∨ ∃ n < 16, d = Hexadecimal.upper n := by
  obtain ⟨b, -, hd⟩ := List.mem_flatMap.1 h
  have hescape : escape b = ['%', Hexadecimal.upper (b.toNat / 16 % 16),
      Hexadecimal.upper (b.toNat % 16)] := rfl
  rw [hescape] at hd
  simp only [List.mem_cons, List.not_mem_nil, or_false] at hd
  rcases hd with rfl | rfl | rfl
  · exact .inl rfl
  · exact .inr ⟨_, Nat.mod_lt _ (by decide), rfl⟩
  · exact .inr ⟨_, Nat.mod_lt _ (by decide), rfl⟩

/-- An encoded text holds characters that are kept and those of escapes. -/
theorem mem_encode {keep : Char → Bool} {cs : List Char} {d : Char} (h : d ∈ encode keep cs) :
    keep d = true ∨ d = '%' ∨ ∃ n < 16, d = Hexadecimal.upper n := by
  obtain ⟨c, -, hd⟩ := List.mem_flatMap.1 h
  split at hd
  · next hkeep =>
    rw [List.mem_singleton.1 hd]
    exact .inl hkeep
  · exact .inr (mem_escapeCharacter hd)

/-- No at sign comes into a text by escaping. -/
theorem at_not_mem_encode {keep : Char → Bool} (hkeep : keep '@' = false) (cs : List Char) :
    '@' ∉ encode keep cs := by
  intro h
  rcases mem_encode h with hkept | hmark | ⟨n, hn, hdigit⟩
  · rw [hkeep] at hkept
    cases hkept
  · exact absurd hmark (by decide)
  · have hall : ∀ m < 16, '@' ≠ Hexadecimal.upper m := by decide
    exact hall n hn hdigit

end Percent

/-! ## Cutting off user information -/

namespace Text

theorem cutAt_fst (separator : Char) (cs : List Char) :
    (cutAt separator cs).1 = cs.takeWhile (· ≠ separator) := by
  rw [cutAt]
  split <;> rfl

theorem cutAt_eq_of_not_mem {separator : Char} {cs : List Char} (h : separator ∉ cs) :
    cutAt separator cs = (cs, none) := by
  have hall : cs.takeWhile (· ≠ separator) = cs := by
    have hne (c : Char) (hc : c ∈ cs) : decide (c ≠ separator) = true :=
      decide_eq_true fun he => h (he ▸ hc)
    have happend : (cs ++ []).takeWhile (· ≠ separator) = cs ++ [].takeWhile (· ≠ separator) :=
      List.takeWhile_append_of_pos hne
    simpa only [List.append_nil, List.takeWhile_nil] using happend
  rw [cutAt, hall]
  simp only [List.drop_length]

/-- What comes after the last separator holds none. -/
theorem not_mem_cutAtLast (separator : Char) (cs : List Char) :
    separator ∉ (cutAtLast separator cs).2 := by
  have hafter : (cutAtLast separator cs).2 = (cutAt separator cs.reverse).1.reverse := by
    rw [cutAtLast]
    split <;> next heq => rw [heq]
  rw [hafter, List.mem_reverse, cutAt_fst]
  intro h
  exact of_decide_eq_true (List.all_eq_true.1 List.all_takeWhile separator h) rfl

theorem cutAtLast_eq_of_not_mem {separator : Char} {cs : List Char} (h : separator ∉ cs) :
    cutAtLast separator cs = (none, cs) := by
  rw [cutAtLast, cutAt_eq_of_not_mem (mt List.mem_reverse.1 h)]
  simp only [List.reverse_reverse]

end Text

namespace Url

open Text

theorem at_not_mem_host (cs : List Char) : '@' ∉ (Authority.ofText cs).host := by
  intro h
  exact not_mem_cutAtLast '@' cs (List.mem_of_mem_take h)

theorem userInfo_ofText_of_not_mem {cs : List Char} (h : '@' ∉ cs) :
    (Authority.ofText cs).userInfo = [] := by
  rw [Authority.ofText, cutAtLast_eq_of_not_mem h]
  rfl

theorem at_not_kept : isKeptInHost '@' = false := by cbv

/-- The normal form of a host holds no at sign unless the host does. -/
theorem at_not_mem_normalizeHost? {cs host : List Char} (h : normalizeHost? cs = some host)
    (hcs : '@' ∉ cs) : '@' ∉ host := by
  unfold normalizeHost? at h
  -- Four numbers stay as they are, eight groups lose their brackets, and a name is encoded.
  split at h
  · split at h
    · rwa [← Option.some.inj h]
    · cases h
  split at h
  · dsimp only at h
    split at h
    · rw [← Option.some.inj h]
      exact fun hmem => hcs (List.mem_of_mem_drop ((List.dropLast_sublist _).subset hmem))
    · cases h
  split at h
  · rw [← Option.some.inj h]
    exact Percent.at_not_mem_encode at_not_kept _
  · cases h

theorem at_not_mem_toString (n : Int) : '@' ∉ (toString n).toList := by
  have hdigits (m : Nat) : '@' ∉ m.repr.toList := by
    rw [Nat.toList_repr]
    intro h
    exact absurd (Decimal.isDigit_of_mem_digits h) (by decide)
  cases n with
  | ofNat m => exact hdigits m
  | negSucc m =>
    show '@' ∉ ("-" ++ m.succ.repr).toList
    rw [String.toList_append, List.mem_append]
    rintro (h | h)
    · exact absurd h (by decide)
    · exact hdigits _ h

/-- The host of an address holds no at sign. -/
def HasPlainHost (u : Url) : Prop := '@' ∉ u.host

theorem HasPlainHost.at_not_mem {u : Url} (h : u.HasPlainHost) : '@' ∉ u.hostAndPort := by
  rw [hostAndPort, List.mem_append]
  rintro (hmem | hmem)
  · split at hmem
    · rcases List.mem_append.1 hmem with hmem | hmark
      · exact (List.mem_cons.1 hmem).elim (fun hmark => absurd hmark (by decide)) h
      · exact absurd (List.mem_singleton.1 hmark) (by decide)
    · exact h hmem
  · cases hport : u.port with
    | none =>
      rw [hport] at hmem
      exact absurd hmem List.not_mem_nil
    | some n =>
      rw [hport] at hmem
      rcases List.mem_cons.1 hmem with hmark | hmem
      · exact absurd hmark (by decide)
      · exact at_not_mem_toString n hmem

/-- The authority of the parts decides who asks and whom. -/
theorem of_ofParts? {p : Parts} {u : Url} (h : ofParts? p = some u) :
    u.userInfo = Percent.encode isKeptInUserInfo (Authority.ofText p.authority).userInfo
      ∧ normalizeHost? (Authority.ofText p.authority).host = some u.host := by
  simp only [ofParts?, Option.bind_eq_bind, Option.bind_eq_some_iff] at h
  obtain ⟨host, hhost, port, -, -, -, hu⟩ := h
  obtain rfl := Option.some.inj hu
  exact ⟨rfl, hhost⟩

theorem hasPlainHost_of_ofParts? {p : Parts} {u : Url} (h : ofParts? p = some u) :
    u.HasPlainHost :=
  at_not_mem_normalizeHost? (of_ofParts? h).2 (at_not_mem_host p.authority)

theorem ofParts?_of_recompose? {p : Parts} {u : Url} (h : recompose? p = some u) :
    ofParts? p = some u := by
  rw [recompose?] at h
  split at h
  · exact h
  · cases h

/-- Parts of which the authority holds no at sign do not say who asks. -/
theorem userInfo_of_recompose? {p : Parts} {u : Url} (h : recompose? p = some u)
    (hat : '@' ∉ p.authority) : u.userInfo = [] := by
  rw [(of_ofParts? (ofParts?_of_recompose? h)).1, userInfo_ofText_of_not_mem hat]
  rfl

/-- An address that does not say who asks goes on so with another query. -/
theorem userInfo_of_withQuery? {u v : Url} {query : List Char} (hhost : u.HasPlainHost)
    (hnone : u.userInfo = []) (h : u.withQuery? query = some v) : v.userInfo = [] := by
  refine userInfo_of_recompose? h ?_
  show '@' ∉ u.authority
  rw [authority, hnone]
  exact hhost.at_not_mem

theorem hasPlainHost_of_read? {cs : List Char} {u : Url} (h : read? cs = some u) :
    u.HasPlainHost := by
  rw [read?] at h
  split at h
  · exact hasPlainHost_of_ofParts? h
  · cases h

/-- What is asked says who asks only if the address does. -/
theorem of_target? {u v : Url} (hhost : u.HasPlainHost) (h : u.target? = some v) :
    v.HasPlainHost ∧ (u.userInfo = [] → v.userInfo = []) := by
  rw [target?] at h
  split at h
  · obtain rfl := Option.some.inj h
    exact ⟨hhost, id⟩
  · exact ⟨hasPlainHost_of_ofParts? (ofParts?_of_recompose? h),
      fun _ => userInfo_of_recompose? h List.not_mem_nil⟩

theorem basicCredentials?_of_userInfo {u : Url} (h : u.userInfo = []) :
    u.basicCredentials? = none := by
  rw [basicCredentials?, h]
  rfl

end Url

end PersistedDocument
