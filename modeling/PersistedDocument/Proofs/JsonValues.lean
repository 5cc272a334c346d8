import PersistedDocument.Proofs.JsonGrammar
import PersistedDocument.Proofs.JsonMembers
import PersistedDocument.Proofs.JsonStrings

/-!
# Proofs: JSON values

What is written as JSON is read as it was, however its strings are escaped and its parts set apart.
Real numbers are left out, as are the values that cannot be read: whole numbers of too many digits,
strings with an unpaired surrogate before another that completes it, and objects in which a name
stands twice.
-/

namespace PersistedDocument

namespace Json

open Reader

/-! ## Layouts -/

/-- What sets the parts of arrays and objects apart is the mark between them and gaps. -/
structure Spacing.IsLayout (spacing : Spacing) : Prop where
  /-- Items are set apart by a comma. -/
  between (level : Nat) : ∃ gap, spacing.between level = ',' :: gap
    ∧ ∀ c ∈ gap, isGap (.scalar c) = true
  /-- There are only gaps inside brackets. -/
  around (level : Nat) : ∀ c ∈ spacing.around level, isGap (.scalar c) = true
  /-- A name is set apart from its value by a colon. -/
  afterName : ∃ gap, spacing.afterName = ':' :: gap ∧ ∀ c ∈ gap, isGap (.scalar c) = true

theorem isLayout_compact : compact.IsLayout :=
  ⟨fun _ => ⟨[], rfl, nofun⟩, fun _ => nofun, ⟨[], rfl, nofun⟩⟩

theorem isGap_of_mem_lineBreak {level : Nat} {c : Char} (h : c ∈ lineBreak level) :
    isGap (.scalar c) = true := by
  rcases List.mem_cons.1 h with rfl | h
  · rfl
  · rw [List.eq_of_mem_replicate h]
    rfl

theorem isLayout_spread : spread.IsLayout :=
  ⟨fun level => ⟨lineBreak level, rfl, fun _ => isGap_of_mem_lineBreak⟩,
    fun _ _ => isGap_of_mem_lineBreak, ⟨[' '], rfl, List.forall_mem_singleton.2 rfl⟩⟩

/-! ## Values that can be read as they were -/

/-- A value that is read as it was when it is written. -/
inductive IsExact : Json → Prop
  /-- The value without content. -/
  | null : IsExact .null
  /-- A truth value. -/
  | boolean (b : Bool) : IsExact (.boolean b)
  /-- A whole number that has not too many digits. -/
  | integer {n : Int} (h : (Decimal.digits n.natAbs).length ≤ Decimal.maximalDigits) :
    IsExact (.integer n)
  /-- A string in which no two surrogates make a pair. -/
  | string {s : LooseText} (h : s.HasNoPair) : IsExact (.string s)
  /-- An array of such values. -/
  | array {items : List Json} (h : ∀ v ∈ items, IsExact v) : IsExact (.array items)
  /-- An object with such names and values, each name once. -/
  | object {members : List (LooseText × Json)} (hdistinct : (members.map Prod.fst).Nodup)
    (hnames : ∀ m ∈ members, m.1.HasNoPair) (h : ∀ m ∈ members, IsExact m.2) :
    IsExact (.object members)

/-- There is room for the arrays and objects of a value in each other. -/
inductive FitsIn : Nat → Json → Prop
  | null {room : Nat} : FitsIn room .null
  | boolean {room : Nat} (b : Bool) : FitsIn room (.boolean b)
  | integer {room : Nat} (n : Int) : FitsIn room (.integer n)
  | real {room : Nat} (x : Float) : FitsIn room (.real x)
  | string {room : Nat} (s : LooseText) : FitsIn room (.string s)
  | array {room : Nat} {items : List Json} (h : ∀ v ∈ items, FitsIn room v) :
    FitsIn (room + 1) (.array items)
  | object {room : Nat} {members : List (LooseText × Json)} (h : ∀ m ∈ members, FitsIn room m.2) :
    FitsIn (room + 1) (.object members)

theorem FitsIn.mono {room more : Nat} {v : Json} (h : v.FitsIn room) (hmore : room ≤ more) :
    v.FitsIn more := by
  induction h generalizing more with
  | null => exact .null
  | boolean b => exact .boolean b
  | integer n => exact .integer n
  | real x => exact .real x
  | string s => exact .string s
  | array _ ih =>
    obtain ⟨more, rfl⟩ := Nat.exists_eq_add_one_of_ne_zero (Nat.ne_zero_of_lt hmore)
    exact .array fun v hv => ih v hv (Nat.le_of_succ_le_succ hmore)
  | object _ ih =>
    obtain ⟨more, rfl⟩ := Nat.exists_eq_add_one_of_ne_zero (Nat.ne_zero_of_lt hmore)
    exact .object fun m hm => ih m hm (Nat.le_of_succ_le_succ hmore)

/-- A text that is read as a value, with room for so many arrays and objects in each other, whatever
comes after it, and that begins with no gap. -/
structure IsReadAs (room : Nat) (text : List Char) (v : Json) : Prop where
  /-- The value is not skipped. -/
  head : ∃ c cs, text = c :: cs ∧ isGap (.scalar c) = false
  /-- The value is read up to its end. -/
  reads (rest : LooseText) (hrest : EndsNumber rest) :
    Reads room (text.map .scalar ++ rest) (.value v) rest

theorem IsReadAs.skipGap_eq {room : Nat} {text : List Char} {v : Json} (h : IsReadAs room text v)
    (rest : LooseText) : skipGap (text.map .scalar ++ rest) = text.map .scalar ++ rest := by
  obtain ⟨c, cs, rfl, hnogap⟩ := h.head
  exact skipGap_of_not hnogap

theorem isReadAs_word {room : Nat} {text : List Char} {c : Char} {cs : List Char} {v : Json}
    (htext : text = c :: cs) (hgap : isGap (.scalar c) = false)
    (hc : c ≠ '"' ∧ c ≠ '[' ∧ c ≠ '{')
    (hword : ∀ rest, word? (text.map .scalar ++ rest) = some (v, rest)) :
    IsReadAs room text v := by
  refine ⟨⟨c, cs, htext, hgap⟩, fun rest _ => .plain ?_ ?_⟩
  · rw [htext]
    exact isPlain_cons hc _
  · rw [plain, hword]

theorem isReadAs_null (room : Nat) : IsReadAs room "null".toList .null :=
  isReadAs_word rfl rfl (by decide) fun _ => rfl

theorem isReadAs_boolean (room : Nat) (b : Bool) :
    IsReadAs room (if b then "true".toList else "false".toList) (.boolean b) := by
  cases b with
  | true => exact isReadAs_word rfl rfl (by decide) fun _ => rfl
  | false => exact isReadAs_word rfl rfl (by decide) fun _ => rfl

theorem isReadAs_integer (room : Nat) {n : Int}
    (h : (Decimal.digits n.natAbs).length ≤ Decimal.maximalDigits) :
    IsReadAs room (writeInteger n) (.integer n) := by
  have hds := isWhole_digits n.natAbs
  obtain ⟨isNegative, hn⟩ := exists_writeInteger_eq n
  obtain ⟨c, cs, htext, hc⟩ := exists_head_withSign hds isNegative
  refine ⟨⟨c, cs, hn.trans htext, hc.isGap_eq⟩, fun rest hrest => ?_⟩
  have hnumber := number_writeInteger h hrest
  rw [hn] at hnumber ⊢
  exact .plain (isPlain_withSign hds isNegative rest)
    ((plain_withSign hds isNegative rest).trans hnumber)

theorem isReadAs_string (room : Nat) {esc : Escaping} (hesc : esc.IsFaithful) {s : LooseText}
    (hs : s.HasNoPair) : IsReadAs room (writeString esc s) (.string s) := by
  refine ⟨⟨'"', _, rfl, rfl⟩, fun rest _ => ?_⟩
  rw [map_writeString]
  exact .string (string_written hesc hs rest)

/-! ## Arrays -/

theorem endsNumber_cons {c : Char}
    (hc : c.isDigit = false ∧ c ≠ '.' ∧ c ≠ 'e' ∧ c ≠ 'E') (rest : LooseText) :
    EndsNumber (.scalar c :: rest) := by
  intro d hd
  obtain rfl := CodePoint.scalar.inj (Option.some.inj hd)
  exact hc

theorem endsNumber_append {gap : List Char} {t : LooseText}
    (hgap : ∀ c ∈ gap, isGap (.scalar c) = true) (ht : EndsNumber t) :
    EndsNumber (gap.map .scalar ++ t) := by
  cases gap with
  | nil => exact ht
  | cons c gap =>
    have hc := hgap c List.mem_cons_self
    simp only [isGap, Bool.or_eq_true, decide_eq_true_eq] at hc
    refine endsNumber_cons ?_ (gap.map .scalar ++ t)
    rcases hc with ((rfl | rfl) | rfl) | rfl <;> decide

/-- Items with something between them begin like the first of them. -/
theorem head?_joinWith (sep : List Char) {text : List Char} {c : Char} {cs : List Char}
    (h : text = c :: cs) (texts : List (List Char)) (rest : LooseText) :
    ((Text.joinWith sep (text :: texts)).map CodePoint.scalar ++ rest).head?
      = some (.scalar c) := by
  rw [h, Text.joinWith_cons_cons]
  rfl

theorem map_append_mark (text : List Char) (c : Char) (gap more : List Char) (rest : LooseText) :
    (text ++ c :: gap ++ more).map .scalar ++ rest
      = text.map .scalar ++ .scalar c :: (gap.map .scalar ++ (more.map .scalar ++ rest)) := by
  simp only [List.map_append, List.map_cons, List.append_assoc, List.cons_append]

/-- Brackets with items in them stand apart from the items by gaps. -/
theorem map_bracket (spacing : Spacing) (level : Nat) (opening closing : Char)
    (text : List Char) (texts : List (List Char)) (rest : LooseText) :
    (bracket spacing level opening closing (text :: texts)).map .scalar ++ rest
      = .scalar opening :: ((spacing.around (level + 1)).map .scalar
        ++ ((Text.joinWith (spacing.between (level + 1)) (text :: texts)).map .scalar
          ++ ((spacing.around level).map .scalar ++ .scalar closing :: rest))) := by
  have hnonempty : ¬(text :: texts).isEmpty = true := Bool.false_ne_true
  simp only [bracket, if_neg hnonempty, List.map_append, List.map_cons, List.map_nil,
    List.append_assoc, List.cons_append, List.nil_append]

section

variable {room : Nat} {f : Json → List Char} {gap gap' : List Char}
  (hgap : ∀ c ∈ gap, isGap (.scalar c) = true) (hgap' : ∀ c ∈ gap', isGap (.scalar c) = true)

include hgap hgap'

/-- Written items are read up to the end of their array. -/
theorem items_written {v : Json} {vs : List Json} (h : ∀ u ∈ v :: vs, IsReadAs room (f u) u)
    (rest : LooseText) :
    Reads room ((Text.joinWith (',' :: gap) ((v :: vs).map f)).map .scalar
      ++ (gap'.map .scalar ++ .scalar ']' :: rest)) (.items (v :: vs)) rest := by
  induction vs generalizing v with
  | nil =>
    have hends : EndsNumber (gap'.map .scalar ++ .scalar ']' :: rest) :=
      endsNumber_append hgap' (endsNumber_cons (by decide) rest)
    rw [List.map_singleton, Text.joinWith]
    exact .lastItem ((h v List.mem_cons_self).reads _ hends)
      (skipGap_append hgap' (skipGap_of_not rfl))
  | cons v' vs ih =>
    obtain ⟨hv, hvs⟩ := List.forall_mem_cons.1 h
    obtain ⟨c, cs, hc, hnogap⟩ := (hvs v' List.mem_cons_self).head
    have hjoin : Text.joinWith (',' :: gap) ((v :: v' :: vs).map f)
        = f v ++ ',' :: gap ++ Text.joinWith (',' :: gap) ((v' :: vs).map f) := rfl
    have hstart := skipGap_of_head? (head?_joinWith (',' :: gap) hc (vs.map f)
      (gap'.map .scalar ++ .scalar ']' :: rest)) hnogap
    rw [hjoin, map_append_mark]
    refine .item (hv.reads _ (endsNumber_cons (by decide) _)) (skipGap_of_not rfl) ?_
    rw [List.map_cons, skipGap_append hgap hstart]
    exact ih hvs

end

theorem isReadAs_array {room : Nat} {spacing : Spacing} (hspacing : spacing.IsLayout)
    {f : Json → List Char} {vs : List Json} (h : ∀ v ∈ vs, IsReadAs room (f v) v) (level : Nat) :
    IsReadAs (room + 1) (bracket spacing level '[' ']' (vs.map f)) (.array vs) := by
  cases vs with
  | nil => exact ⟨⟨'[', [']'], rfl, rfl⟩, fun rest _ => .emptyArray (skipGap_of_not rfl)⟩
  | cons v vs =>
    obtain ⟨gap, hbetween, hgap⟩ := hspacing.between (level + 1)
    refine ⟨⟨'[', _, rfl, rfl⟩, fun rest _ => ?_⟩
    obtain ⟨c, cs, hc, hnogap⟩ := (h v List.mem_cons_self).head
    have hstart := skipGap_of_head? (head?_joinWith (',' :: gap) hc (vs.map f)
      ((spacing.around level).map .scalar ++ .scalar ']' :: rest)) hnogap
    rw [List.map_cons, map_bracket, hbetween]
    refine .array ?_
    rw [skipGap_append (hspacing.around (level + 1)) hstart]
    exact items_written hgap (hspacing.around level) h rest

/-! ## Objects -/

section

variable {room : Nat} {esc : Escaping} (hesc : esc.IsFaithful) {f : Json → List Char}
  {gap gap' gapAfterName : List Char} (hgap : ∀ c ∈ gap, isGap (.scalar c) = true)
  (hgap' : ∀ c ∈ gap', isGap (.scalar c) = true)
  (hgapAfterName : ∀ c ∈ gapAfterName, isGap (.scalar c) = true)
  {text : LooseText × Json → List Char}
  (htext : ∀ m, text m = writeString esc m.1 ++ ':' :: gapAfterName ++ f m.2)

include hesc hgap hgap' hgapAfterName htext

/-- Written members are read up to the end of their object. -/
theorem members_written {m : LooseText × Json} {ms : List (LooseText × Json)}
    (hnames : ∀ e ∈ m :: ms, e.1.HasNoPair) (h : ∀ e ∈ m :: ms, IsReadAs room (f e.2) e.2)
    (rest : LooseText) :
    Reads room ((Text.joinWith (',' :: gap) ((m :: ms).map text)).map .scalar
      ++ (gap'.map .scalar ++ .scalar '}' :: rest)) (.members (m :: ms)) rest := by
  have hvalue (e : LooseText × Json) (he : e ∈ m :: ms) (x : LooseText) (hx : EndsNumber x) :
      Reads room (skipGap (gapAfterName.map .scalar ++ ((f e.2).map .scalar ++ x))) (.value e.2) x := by
    rw [skipGap_append hgapAfterName ((h e he).skipGap_eq x)]
    exact (h e he).reads x hx
  induction ms generalizing m with
  | nil =>
    have hends : EndsNumber (gap'.map .scalar ++ .scalar '}' :: rest) :=
      endsNumber_append hgap' (endsNumber_cons (by decide) rest)
    rw [List.map_singleton, Text.joinWith, htext, map_append_mark, map_writeString]
    exact .lastMember (string_written hesc (hnames m List.mem_cons_self) _) (skipGap_of_not rfl)
      (hvalue m List.mem_cons_self _ hends) (skipGap_append hgap' (skipGap_of_not rfl))
  | cons m' ms ih =>
    obtain ⟨hm, hms⟩ := List.forall_mem_cons.1 h
    obtain ⟨hname, hnames⟩ := List.forall_mem_cons.1 hnames
    have hjoin : Text.joinWith (',' :: gap) ((m :: m' :: ms).map text)
        = text m ++ ',' :: gap ++ Text.joinWith (',' :: gap) ((m' :: ms).map text) := rfl
    have hstart := skipGap_of_head? (head?_joinWith (',' :: gap) (htext m') (ms.map text)
      (gap'.map .scalar ++ .scalar '}' :: rest)) rfl
    rw [hjoin, map_append_mark, htext, map_append_mark, map_writeString]
    refine .member (string_written hesc hname _) (skipGap_of_not rfl)
      (hvalue m List.mem_cons_self _ (endsNumber_cons (by decide) _)) (skipGap_of_not rfl) ?_
    rw [List.map_cons, skipGap_append hgap hstart]
    exact ih hnames hms (List.forall_mem_cons.1 hvalue).2

end

theorem isReadAs_object {room : Nat} {spacing : Spacing} (hspacing : spacing.IsLayout)
    {esc : Escaping} (hesc : esc.IsFaithful) {f : Json → List Char}
    {ms : List (LooseText × Json)} (hdistinct : (ms.map Prod.fst).Nodup)
    (hnames : ∀ m ∈ ms, m.1.HasNoPair) (h : ∀ m ∈ ms, IsReadAs room (f m.2) m.2) (level : Nat) :
    IsReadAs (room + 1) (bracket spacing level '{' '}'
      (ms.map fun m => writeString esc m.1 ++ spacing.afterName ++ f m.2)) (.object ms) := by
  cases ms with
  | nil => exact ⟨⟨'{', ['}'], rfl, rfl⟩, fun rest _ => .emptyObject (skipGap_of_not rfl)⟩
  | cons m ms =>
    obtain ⟨gap, hbetween, hgap⟩ := hspacing.between (level + 1)
    obtain ⟨gapAfterName, hafterName, hgapAfterName⟩ := hspacing.afterName
    rw [hafterName]
    generalize htext : (fun m : LooseText × Json =>
      writeString esc m.1 ++ ':' :: gapAfterName ++ f m.2) = text
    have htext (m : LooseText × Json) :
        text m = writeString esc m.1 ++ ':' :: gapAfterName ++ f m.2 := by rw [← htext]
    refine ⟨⟨'{', _, rfl, rfl⟩, fun rest _ => ?_⟩
    have hstart := skipGap_of_head? (head?_joinWith (',' :: gap) (htext m) (ms.map text)
      ((spacing.around level).map .scalar ++ .scalar '}' :: rest)) rfl
    have hmembers := members_written hesc hgap (hspacing.around level) hgapAfterName htext hnames h
      rest
    rw [List.map_cons, ← skipGap_append (hspacing.around (level + 1)) hstart] at hmembers
    have hobject := Reads.object hmembers
    rwa [dedupe_of_nodup hdistinct, ← hbetween, ← map_bracket] at hobject

/-- In an object that is read, a name has the value that is written last for it. The object takes up
some of the room. -/
theorem Reads.exists_written {room : Nat} {t rest : LooseText} {w : Json}
    (h : Reads room (.scalar '{' :: t) (.value w) rest) :
    ∃ inner written, room = inner + 1
      ∧ (written = [] ∨ Reads inner (skipGap t) (.members written) rest)
      ∧ ∀ name, w.member? name = written.reverse.lookup (.ofString name) := by
  cases h with
  | emptyObject => exact ⟨_, [], rfl, .inl rfl, fun name => rfl⟩
  | object hmembers => exact ⟨_, _, rfl, .inr hmembers, fun name => lookup_dedupe _ _⟩
  | plain hplain => exact absurd rfl (hplain '{' (by decide))

/-! ## Ordinary texts and names -/

theorem isExact_text (s : String) : (text s).IsExact := .string (LooseText.hasNoPair_ofString s)

theorem isExact_texts (names : List String) : (array (names.map text)).IsExact := by
  refine .array fun v hv => ?_
  obtain ⟨name, -, rfl⟩ := List.mem_map.1 hv
  exact isExact_text name

/-- An object with ordinary names is read as it was if its values are. -/
theorem isExact_ofFields {fields : List (String × Json)}
    (hdistinct : (fields.map Prod.fst).Nodup) (h : ∀ f ∈ fields, f.2.IsExact) :
    (ofFields fields).IsExact := by
  refine .object ?_ ?_ ?_
  · rw [List.map_map]
    have hnames : ((fields.map Prod.fst).map LooseText.ofString).Nodup :=
      List.pairwise_map.2 (List.Pairwise.imp (fun hne he => hne (ofString_injective he)) hdistinct)
    rwa [List.map_map] at hnames
  · intro m hm
    obtain ⟨f, -, rfl⟩ := List.mem_map.1 hm
    exact LooseText.hasNoPair_ofString f.1
  · intro m hm
    obtain ⟨f, hf, rfl⟩ := List.mem_map.1 hm
    exact h f hf

theorem fitsIn_texts (room : Nat) (names : List String) :
    (array (names.map text)).FitsIn (room + 1) := by
  refine .array fun v hv => ?_
  obtain ⟨name, -, rfl⟩ := List.mem_map.1 hv
  exact .string _

theorem fitsIn_ofFields {room : Nat} {fields : List (String × Json)}
    (h : ∀ f ∈ fields, f.2.FitsIn room) : (ofFields fields).FitsIn (room + 1) := by
  refine .object fun m hm => ?_
  obtain ⟨f, hf, rfl⟩ := List.mem_map.1 hm
  exact h f hf

/-! ## All values -/

theorem writeItems_eq_map (spacing : Spacing) (esc : Escaping) (level : Nat) (vs : List Json) :
    writeItems spacing esc level vs = vs.map (write spacing esc level) := by
  induction vs with
  | nil => rfl
  | cons v vs ih => rw [writeItems, ih, List.map_cons]

theorem writeMembers_eq_map (spacing : Spacing) (esc : Escaping) (level : Nat)
    (ms : List (LooseText × Json)) :
    writeMembers spacing esc level ms = ms.map fun m =>
      writeString esc m.1 ++ spacing.afterName ++ write spacing esc level m.2 := by
  induction ms with
  | nil => rfl
  | cons m ms ih => rw [writeMembers, ih, List.map_cons]

/-- A written value is read as it was where there is room for it, whatever comes after it. -/
theorem isReadAs_write {room : Nat} {spacing : Spacing} (hspacing : spacing.IsLayout)
    {esc : Escaping} (hesc : esc.IsFaithful) {v : Json} (h : v.IsExact) (hfits : v.FitsIn room)
    (level : Nat) : IsReadAs room (write spacing esc level v) v := by
  induction h generalizing room level with
  | null =>
    rw [write]
    exact isReadAs_null room
  | boolean b =>
    rw [write]
    exact isReadAs_boolean room b
  | integer h =>
    rw [write]
    exact isReadAs_integer room h
  | string h =>
    rw [write]
    exact isReadAs_string room hesc h
  | array _ ih =>
    rw [write, writeItems_eq_map]
    cases hfits with
    | array hfits =>
      exact isReadAs_array hspacing (fun v hv => ih v hv (hfits v hv) (level + 1)) level
  | object hdistinct hnames _ ih =>
    rw [write, writeMembers_eq_map]
    cases hfits with
    | object hfits =>
      exact isReadAs_object hspacing hesc hdistinct hnames
        (fun m hm => ih m hm (hfits m hm) (level + 1)) level

variable {room : Nat} {v : Json}

/-- A value is read as it was, whatever gap comes after it. -/
theorem read_append_of_isReadAs {text gap : List Char} (h : IsReadAs room text v)
    (hgap : ∀ c ∈ gap, isGap (.scalar c) = true) :
    read room (text.map .scalar ++ gap.map .scalar) = .ok v := by
  have hends := endsNumber_append (t := []) hgap nofun
  have hend := skipGap_append (t := []) hgap rfl
  rw [List.append_nil] at hends hend
  refine read_eq_ok_iff.2 ⟨gap.map .scalar, ?_, hend⟩
  rw [h.skipGap_eq]
  exact h.reads _ hends

theorem read_of_isReadAs {text : List Char} (h : IsReadAs room text v) :
    read room (text.map .scalar) = .ok v := by
  have hread := @read_append_of_isReadAs room v text [] h nofun
  rwa [List.map_nil, List.append_nil] at hread

/-- What is written on one line is read as it was. -/
theorem read_encode (h : v.IsExact) (hfits : v.FitsIn room) :
    read room (.ofString v.encode) = .ok v := by
  rw [encode, LooseText.ofString, String.toList_ofList]
  exact read_of_isReadAs (isReadAs_write isLayout_compact isFaithful_minimal h hfits 0)

/-- What is written on one line of printable ASCII is read as it was. -/
theorem read_serialize (h : v.IsExact) (hfits : v.FitsIn room) :
    read room (.ofString v.serialize) = .ok v := by
  rw [serialize, LooseText.ofString, String.toList_ofList]
  exact read_of_isReadAs (isReadAs_write isLayout_compact isFaithful_asciiOnly h hfits 0)

/-- What is laid out over several lines is read as it was, with the end of the last line. -/
theorem read_prettyPrint_line (h : v.IsExact) (hfits : v.FitsIn room) :
    read room (.ofString (v.prettyPrint ++ "\n")) = .ok v := by
  have hgap : ∀ c ∈ "\n".toList, isGap (.scalar c) = true := by
    intro c hc
    rw [show c = '\n' from List.mem_singleton.1 hc]
    rfl
  rw [LooseText.ofString, String.toList_append, List.map_append, prettyPrint,
    String.toList_ofList]
  exact read_append_of_isReadAs (isReadAs_write isLayout_spread isFaithful_asciiOnly h hfits 0) hgap

end Json

end PersistedDocument
