import Mathlib
import PersistedDocument.Proofs.Lines
import PersistedDocument.Proofs.Resolution
import PersistedDocument.Proofs.Utf8
import PersistedDocument.Settings.Program

/-!
# Proofs: values kept in environment files

Any text without carriage returns and references can be kept in an environment file: between single
quotes, with a backslash before each backslash and each single quote. A reader of the quoted value
skips the escapes two characters at a time, so that it meets the closing quote and no other, and
what follows is the end of the line.
-/

namespace PersistedDocument

open Text

namespace Settings.EnvironmentFile

/-! ## Single quotes -/

/-- A text with a backslash before each backslash and each single quote. -/
def escapeSingle : List Char → List Char
  | [] => []
  | c :: cs => if c = '\\' ∨ c = '\'' then '\\' :: c :: escapeSingle cs else c :: escapeSingle cs

/-- A text between single quotes is read back, whatever follows. -/
theorem quotedValue_escapeSingle (cs rest : List Char) :
    quotedValue '\'' singleEscape? (escapeSingle cs ++ '\'' :: rest) = some (cs, rest) := by
  induction cs with
  | nil => rfl
  | cons c cs ih =>
    by_cases hc : c = '\\' ∨ c = '\''
    · have hescape : singleEscape? c = some c := by
        rcases hc with rfl | rfl <;> rfl
      rw [escapeSingle, if_pos hc, List.cons_append, List.cons_append, quotedValue, ih]
      simp [hescape]
    · obtain ⟨hbackslash, hquote⟩ := not_or.1 hc
      rw [escapeSingle, if_neg hc, List.cons_append, quotedValue, if_neg hquote,
        if_neg hbackslash, ih]
      · rfl
      · exact fun d ds h _ => hbackslash h

theorem mem_of_mem_escapeSingle {cs : List Char} {c : Char} (h : c ∈ escapeSingle cs) :
    c = '\\' ∨ c ∈ cs := by
  induction cs with
  | nil => cases h
  | cons d cs ih =>
    rw [escapeSingle] at h
    split at h <;> grind

/-! ## Lines -/

/-- The characters that names are made of. -/
def IsPlainNameCharacter (c : Char) : Prop := c.isAlphanum = true ∨ c = '_'

instance : DecidablePred IsPlainNameCharacter := fun c =>
  inferInstanceAs (Decidable (c.isAlphanum = true ∨ c = '_'))

theorem IsPlainNameCharacter.toNat {c : Char} (h : IsPlainNameCharacter c) :
    (48 ≤ c.toNat ∧ c.toNat ≤ 57) ∨ (65 ≤ c.toNat ∧ c.toNat ≤ 90) ∨ c.toNat = 95
      ∨ (97 ≤ c.toNat ∧ c.toNat ≤ 122) := by
  rcases h with h | rfl
  · simp only [Char.isAlphanum, Char.isAlpha, Char.isUpper, Char.isLower, Bool.or_eq_true,
      Char.isDigit_iff_toNat, Bool.and_eq_true, decide_eq_true_eq, ge_iff_le,
      UInt32.le_iff_toNat_le] at h
    change ((65 ≤ c.toNat ∧ c.toNat ≤ 90) ∨ (97 ≤ c.toNat ∧ c.toNat ≤ 122))
      ∨ (48 ≤ c.toNat ∧ c.toNat ≤ 57) at h
    omega
  · decide

theorem IsPlainNameCharacter.isBlank {c : Char} (h : IsPlainNameCharacter c) :
    isBlank c = false := by
  have hrange := h.toNat
  simp only [Text.isBlank, isWhiteSpace, Bool.or_eq_false_iff, Bool.and_eq_false_iff,
    decide_eq_false_iff_not]
  omega

theorem IsPlainNameCharacter.ne {c d : Char} (h : IsPlainNameCharacter c)
    (hd : ¬IsPlainNameCharacter d) : c ≠ d := by
  rintro rfl
  exact hd h

theorem IsPlainNameCharacter.isNameCharacter {c : Char} (h : IsPlainNameCharacter c) :
    isNameCharacter c = true := by
  have hequals : c ≠ '=' := h.ne (by decide)
  have hmark : c ≠ '#' := h.ne (by decide)
  simp [EnvironmentFile.isNameCharacter, h.isBlank, hequals, hmark]

theorem skipExport_cases (cs : List Char) :
    skipExport cs = cs
      ∨ ∃ c ds, cs = "export".toList ++ c :: ds ∧ isInlineBlank c = true := by
  unfold skipExport
  split
  · next c ds =>
    split
    · next hc => exact Or.inr ⟨c, ds, rfl, hc⟩
    · exact Or.inl rfl
  · exact Or.inl rfl

section

variable {name : List Char} (hname : ∀ c ∈ name, IsPlainNameCharacter c) (rest : List Char)

include hname

theorem takeWhile_name : (name ++ '=' :: rest).takeWhile isNameCharacter = name :=
  takeWhile_append_cons (fun c hc => (hname c hc).isNameCharacter) (by decide) rest

/-- The word `export` is skipped only where a blank is after it. -/
theorem skipExport_name : skipExport (name ++ '=' :: rest) = name ++ '=' :: rest := by
  rcases skipExport_cases (name ++ '=' :: rest) with h | ⟨c, ds, h, hc⟩
  · exact h
  · have hblank : isNameCharacter c = false := by
      simp [isNameCharacter, (Bool.and_eq_true_iff.1 hc).1]
    have hword : ("export".toList ++ c :: ds).takeWhile isNameCharacter = "export".toList :=
      takeWhile_append_cons (List.all_eq_true.1 (by decide)) hblank ds
    -- The word would be the whole name, and the equals sign after it is no blank.
    have hexport : name = "export".toList := by
      rw [← takeWhile_name hname rest, h, hword]
    rw [hexport] at h
    obtain ⟨rfl, -⟩ := List.cons.inj (List.append_cancel_left h)
    exact absurd hc (by decide)

theorem scanName_name (hne : name ≠ []) :
    scanName (name ++ '=' :: rest) = .ok (some name, '=' :: rest) := by
  have hrun := takeWhile_name hname rest
  obtain ⟨c, cs, rfl⟩ := List.exists_cons_of_ne_nil hne
  have hc := hname c List.mem_cons_self
  have hmark : c ≠ '#' := hc.ne (by decide)
  have hquote : c ≠ '\'' := hc.ne (by decide)
  rw [scanName.eq_def]
  split
  · next h => exact absurd (List.cons.inj h).1 hmark
  · next h => exact absurd (List.cons.inj h).1 hquote
  · dsimp only
    rw [hrun, List.drop_left]
    rfl

end

theorem scanAssignment_escapeSingle (cs rest : List Char) :
    scanAssignment ('=' :: '\'' :: (escapeSingle cs ++ '\'' :: rest)) = .ok (some cs, rest) := by
  have hvalue : scanValue ('\'' :: (escapeSingle cs ++ '\'' :: rest)) = .ok (cs, rest) := by
    rw [scanValue, List.dropWhile_cons_of_neg (by decide)]
    show (quotedValue '\'' singleEscape? (escapeSingle cs ++ '\'' :: rest)).elim _ _ = _
    rw [quotedValue_escapeSingle]
    rfl
  rw [scanAssignment, bind_eq_of_ok hvalue]
  rfl

/-! ## Files -/

/-- A name and a value that can be kept for it in a file. -/
structure Credential where
  /-- The name. -/
  name : String
  /-- The value. -/
  value : String
  name_ne_empty : name ≠ ""
  plain_name : ∀ c ∈ name.toList, IsPlainNameCharacter c
  no_return : '\r' ∉ value.toList
  no_reference : HasNoReference value.toList

namespace Credential

/-- What a file should say about a credential. -/
def binding (c : Credential) : Binding := ⟨c.name, some c.value⟩

/-- The line of a credential, which its value may spread over several lines. -/
def line (c : Credential) : List Char :=
  c.name.toList ++ '=' :: '\'' :: (escapeSingle c.value.toList ++ ['\''])

/-- The text of a file with a line for each credential. -/
def fileText (cs : List Credential) (ending : List Char) : List Char :=
  joinLines (cs.map line) ++ ending

section

variable (c : Credential) {rest more : List Char}

theorem name_toList_ne_nil : c.name.toList ≠ [] := by
  intro h
  exact c.name_ne_empty (String.toList_inj.1 h)

/-- After the closing quote a line ends, and nothing there is a comment. -/
theorem scanBinding_line (hrest : rest = [] ∧ more = [] ∨ rest = '\n' :: more) :
    scanBinding (c.line ++ rest) = .ok (some c.binding, more) := by
  have hline : c.line ++ rest
      = c.name.toList ++ '=' :: '\'' :: (escapeSingle c.value.toList ++ '\'' :: rest) := by
    simp [line]
  have hname : scanName (skipExport (c.line ++ rest)) = .ok (some c.name.toList,
      '=' :: '\'' :: (escapeSingle c.value.toList ++ '\'' :: rest)) := by
    rw [hline, skipExport_name c.plain_name, scanName_name c.plain_name _ c.name_toList_ne_nil]
  have hend : scanLineEnd (skipComment rest) = .ok more := by
    rcases hrest with ⟨rfl, rfl⟩ | rfl <;> rfl
  rw [scanBinding, bind_eq_of_ok hname]
  dsimp only
  rw [List.dropWhile_cons_of_neg (by decide),
    bind_eq_of_ok (scanAssignment_escapeSingle c.value.toList rest)]
  dsimp only
  rw [bind_eq_of_ok hend, Option.map_some, Option.map_some, String.ofList_toList,
    String.ofList_toList]
  rfl

theorem head?_line (rest : List Char) :
    ∃ d, (c.line ++ rest).head? = some d ∧ IsPlainNameCharacter d := by
  obtain ⟨d, ds, hds⟩ := List.exists_cons_of_ne_nil c.name_toList_ne_nil
  refine ⟨d, by rw [line, hds]; rfl, c.plain_name d (by rw [hds]; exact List.mem_cons_self)⟩

theorem bindings_line (hrest : rest = [] ∧ more = [] ∨ rest = '\n' :: more) :
    bindings (c.line ++ rest) = c.binding :: bindings more := by
  obtain ⟨d, hd, hplain⟩ := c.head?_line rest
  obtain ⟨ds, hds⟩ := List.head?_eq_some_iff.1 hd
  have hstart : (c.line ++ rest).dropWhile isBlank = c.line ++ rest := by
    rw [hds, List.dropWhile_cons_of_neg (by simp [hplain.isBlank])]
  have hlength : more.length < (c.line ++ rest).length := by
    rw [line]
    rcases hrest with ⟨rfl, rfl⟩ | rfl <;>
      simp only [List.length_append, List.length_cons, List.length_nil] <;> omega
  have hne : (c.line ++ rest).isEmpty = false := by
    rw [hds]
    rfl
  rw [bindings]
  dsimp only
  rw [hstart, hne, scanBinding_line c hrest]
  simp only [hlength]
  rfl

end

theorem fileText_cons_cons (c d : Credential) (ds : List Credential) (ending : List Char) :
    fileText (c :: d :: ds) ending = c.line ++ '\n' :: fileText (d :: ds) ending := by
  simp [fileText, joinLines, joinWith]

theorem bindings_fileText (cs : List Credential) {ending : List Char}
    (hending : ending = [] ∨ ending = ['\n']) :
    bindings (fileText cs ending) = cs.map binding := by
  have hblank : bindings ending = [] := by
    rcases hending with rfl | rfl <;> rw [bindings] <;> rfl
  induction cs with
  | nil => exact hblank
  | cons c cs ih =>
    cases cs with
    | nil =>
      have hrest : ending = [] ∧ ([] : List Char) = [] ∨ ending = ['\n'] :=
        hending.imp_left fun h => ⟨h, rfl⟩
      exact (c.bindings_line hrest).trans (congrArg (c.binding :: ·) bindings_nil)
    | cons d ds =>
      rw [fileText_cons_cons, c.bindings_line (Or.inr rfl), ih, List.map_cons (l := d :: ds)]

theorem not_mem_line (c : Credential) : '\r' ∉ c.line := by
  have hname : '\r' ∉ c.name.toList := fun h =>
    (c.plain_name _ h).ne (by decide) rfl
  have hvalue : '\r' ∉ escapeSingle c.value.toList := by
    intro h
    rcases mem_of_mem_escapeSingle h with h | h
    · cases h
    · exact c.no_return h
  simp [line, hname, hvalue]

theorem not_mem_fileText (cs : List Credential) {ending : List Char}
    (hending : ending = [] ∨ ending = ['\n']) : '\r' ∉ fileText cs ending := by
  have hend : '\r' ∉ ending := by
    rcases hending with rfl | rfl <;> decide
  have hlines : '\r' ∉ joinLines (cs.map line) := by
    intro h
    rcases mem_joinWith h with h | ⟨piece, hpiece, h⟩
    · exact absurd h (by decide)
    · obtain ⟨c, -, rfl⟩ := List.mem_map.1 hpiece
      exact c.not_mem_line h
  exact fun h => (List.mem_append.1 h).elim hlines hend

/-- The file starts with no byte order mark, as names have none. -/
theorem head?_fileText (cs : List Credential) {ending : List Char}
    (hending : ending = [] ∨ ending = ['\n']) : (fileText cs ending).head? ≠ some '\uFEFF' := by
  cases cs with
  | nil => rcases hending with rfl | rfl <;> decide
  | cons c cs =>
    obtain ⟨rest, hrest⟩ : ∃ rest, fileText (c :: cs) ending = c.line ++ rest := by
      cases cs with
      | nil => exact ⟨ending, rfl⟩
      | cons d ds => exact ⟨_, fileText_cons_cons c d ds ending⟩
    obtain ⟨d, hd, hplain⟩ := c.head?_line rest
    rw [hrest, hd]
    intro h
    exact hplain.ne (by decide) (Option.some.inj h)

/-- The octets of the file are read as its text. -/
theorem fileText?_encode (cs : List Credential) {ending : List Char}
    (hending : ending = [] ∨ ending = ['\n']) :
    fileText? (Utf8.encode (String.ofList (fileText cs ending))) = some (fileText cs ending) := by
  have hhead := head?_fileText cs hending
  have hreturn := not_mem_fileText cs hending
  rw [fileText?, Utf8.decode?_encode, Option.bind_eq_bind, Option.bind_some, String.toList_ofList]
  generalize fileText cs ending = text at hhead hreturn
  split
  · exact absurd rfl hhead
  · rw [unifyNewlines_eq_self hreturn]
    rfl

end Credential

end Settings.EnvironmentFile

open Settings EnvironmentFile

/-! ## Giving values -/

/-- Sources of which a value is also given for a field. -/
def Settings.Sources.give (s : Sources) (field : String) (v : Json) : Sources :=
  { s with given := fun name => if name = field then some v else s.given name }

section

variable {s : Sources}

/-- It makes no difference whether a value is found or given. -/
theorem Settings.Sources.raw?_give {field varName : String} {v : Json}
    (h : s.raw? field varName = some v) {name varName' : String}
    (hvar : name = field → varName' = varName) :
    (s.give field v).raw? name varName' = s.raw? name varName' := by
  by_cases hname : name = field
  · subst hname
    rw [hvar rfl, h]
    simp [Sources.give, Sources.raw?]
  · simp [Sources.give, Sources.raw?, hname]

/-! ## Settings of the service -/

/-- The text that settings have for a field. The timeout is no text. -/
def ServiceSettings.text? (settings : ServiceSettings) : ServiceField → Option String
  | .appId => some settings.appId
  | .dashboardToken => some settings.dashboardToken
  | .host => some settings.host
  | .path => some settings.path
  | .timeout => none
  | .endpoint => some settings.endpoint

theorem ServiceSettings.resolve_give {f : ServiceField} {v : Json}
    (h : s.raw? f.name f.name = some v) :
    ServiceSettings.resolve (s.give f.name v) = ServiceSettings.resolve s := by
  refine ServiceSettings.resolve_congr fun g => ?_
  rw [Sources.value?, Sources.raw?_give h id, Sources.value?]

theorem ServiceSettings.text?_of_resolve {f : ServiceField} {text : String}
    {settings : ServiceSettings} (hf : f ≠ .timeout)
    (hraw : s.raw? f.name f.name = some (.text text))
    (h : ServiceSettings.resolve s = .valid settings) : settings.text? f = some text := by
  have hvalue : s.value? f = some (.text text) := by
    rw [Sources.value?, hraw, Option.some_or]
  have hinj {other : String} (hother : s.value? f = some (.text other)) :
      some other = some text := by
    rw [hvalue] at hother
    rw [Json.text_injective (Option.some.inj hother)]
  obtain ⟨happ, htoken, hhost, hpath, -, v, uri, hv, huri, hendpoint⟩ :=
    ServiceSettings.resolve_eq_valid_iff.1 h
  cases f with
  | appId => exact hinj happ
  | dashboardToken => exact hinj htoken
  | host => exact hinj hhost
  | path => exact hinj hpath
  | timeout => exact absurd rfl hf
  | endpoint =>
    rw [hvalue] at hv
    cases hv
    rcases Checked.nullable_eq_valid_iff.1 huri with ⟨hnull, -⟩ | ⟨-, a, ha, rfl⟩
    · cases hnull
    · rw [ServiceSettings.text?, hendpoint, Option.getD_some,
        Json.text_injective (Checked.string_eq_valid_iff.1 ha)]

end

/-! ## Settings of the program -/

/-- The fields of the settings of the program. -/
inductive ProgramField where
  | projectName
  | version
  | level
deriving DecidableEq, Repr

namespace ProgramField

/-- The name of a field. -/
def name : ProgramField → String
  | .projectName => "PROJECT_NAME"
  | .version => "API_VERSION"
  | .level => "LOG_LEVEL"

/-- The variable of a field. -/
def varName (f : ProgramField) : String := "PERSIST_QUERY_" ++ f.name

/-- The value of a field that no source gives. -/
def default : ProgramField → String
  | .projectName => "persist_query"
  | .version => "0.1.0"
  | .level => "INFO"

/-- Settings that come from a text for a field. -/
def Holds (settings : ProgramSettings) (text : String) : ProgramField → Prop
  | .projectName => settings.projectName = text
  | .version => settings.version = text
  | .level => Threshold.ofName? text = some settings.threshold

end ProgramField

section

variable {s : Sources}

/-- The check of a field of the program. -/
def Settings.Sources.text (s : Sources) (f : ProgramField) : Checked String :=
  Checked.withDefault f.name f.default Checked.string (s.raw? f.name f.varName)

theorem ProgramSettings.resolve_eq (s : Sources) :
    ProgramSettings.resolve s = Checked.join (ProgramSettings.assemble
      <$> s.text .projectName <*> s.text .version <*> s.text .level) :=
  rfl

theorem ProgramSettings.resolve_give {f : ProgramField} {v : Json}
    (h : s.raw? f.name f.varName = some v) :
    ProgramSettings.resolve (s.give f.name v) = ProgramSettings.resolve s := by
  have htext (g : ProgramField) : (s.give f.name v).text g = s.text g := by
    rw [Sources.text, Sources.raw?_give h (fun hname => by rw [ProgramField.varName, hname]; rfl),
      Sources.text]
  simp only [ProgramSettings.resolve_eq, htext]

theorem Settings.Sources.text_eq_valid {f : ProgramField} {text : String}
    (h : s.raw? f.name f.varName = some (.text text)) : s.text f = .valid text := by
  rw [Sources.text, h, Checked.withDefault_eq_required (Checked.string_eq_valid_iff.2 rfl),
    Option.some_or]
  exact Checked.required_eq_valid_iff.2 ⟨_, rfl, Checked.string_eq_valid_iff.2 rfl⟩

theorem ProgramSettings.resolve_eq_valid_iff {settings : ProgramSettings} :
    ProgramSettings.resolve s = .valid settings ↔
      s.text .projectName = .valid settings.projectName ∧
      s.text .version = .valid settings.version ∧
      ∃ level, s.text .level = .valid level ∧
        Threshold.ofName? level = some settings.threshold := by
  rw [ProgramSettings.resolve_eq, Checked.join_eq_valid]
  simp only [Checked.seq_eq_valid, Checked.map_eq_valid]
  constructor
  · rintro ⟨_, level, ⟨_, version, ⟨name, hname, rfl⟩, hversion, rfl⟩, hlevel, h⟩
    unfold ProgramSettings.assemble at h
    split at h
    · next threshold hthreshold =>
      cases h
      exact ⟨hname, hversion, level, hlevel, hthreshold⟩
    · cases h
  · rintro ⟨hname, hversion, level, hlevel, hthreshold⟩
    refine ⟨_, level, ⟨_, _, ⟨_, hname, rfl⟩, hversion, rfl⟩, hlevel, ?_⟩
    rw [ProgramSettings.assemble, hthreshold]

theorem ProgramSettings.holds_of_resolve {f : ProgramField} {text : String}
    {settings : ProgramSettings} (hraw : s.raw? f.name f.varName = some (.text text))
    (h : ProgramSettings.resolve s = .valid settings) : f.Holds settings text := by
  have htext := Sources.text_eq_valid hraw
  obtain ⟨hname, hversion, level, hlevel, hthreshold⟩ := ProgramSettings.resolve_eq_valid_iff.1 h
  cases f with
  | projectName =>
    rw [htext] at hname
    exact (Checked.valid.inj hname).symm
  | version =>
    rw [htext] at hversion
    exact (Checked.valid.inj hversion).symm
  | level =>
    rw [htext] at hlevel
    cases hlevel
    exact hthreshold

end

/-! ## Kept values -/

/-- The last credential of a name is the value of the name. -/
theorem lookup_credentials {env : String → Option String} (earlier : List Credential)
    {c : Credential} {later : List Credential} (hlast : ∀ d ∈ later, d.name ≠ c.name) :
    lookup env ((earlier ++ c :: later).map Credential.binding) c.name = some c.value := by
  have hbindings : ∀ b ∈ later.map Credential.binding, b.name ≠ c.binding.name := by
    intro b hb
    obtain ⟨d, hd, rfl⟩ := List.mem_map.1 hb
    exact hlast d hd
  rw [List.map_append, List.map_cons]
  refine (lookup_append_cons hbindings).trans ?_
  rw [Credential.binding, Option.map_some, interpolated_eq_self c.no_reference]

/-- Credentials are read back from the file that keeps them, and the last one of a name is the value
of a field that neither the caller nor the environment gives. It makes no difference to a field
whether its text is kept like this or given. -/
theorem credentials_are_kept (cs : List Credential) (ending : List Char)
    (hending : ending = [] ∨ ending = ['\n']) :
    EnvironmentFile.fileText? (Utf8.encode (String.ofList (Credential.fileText cs ending)))
        = some (Credential.fileText cs ending) ∧
      bindings (Credential.fileText cs ending) = cs.map Credential.binding ∧
      ∀ given env, ∃ s, Sources.ofFile? given env
          (some (Utf8.encode (String.ofList (Credential.fileText cs ending)))) = some s ∧
        ∀ earlier c later, cs = earlier ++ c :: later → (∀ d ∈ later, d.name ≠ c.name) →
          env c.name = none →
          (∀ field, given field = none → s.raw? field c.name = some (.text c.value)) ∧
          (∀ f : ServiceField, f.name = c.name → f ≠ .timeout → given f.name = none →
            ServiceSettings.resolve (s.give f.name (.text c.value)) = ServiceSettings.resolve s ∧
            ∀ settings, ServiceSettings.resolve s = .valid settings →
              settings.text? f = some c.value) ∧
          ∀ f : ProgramField, f.varName = c.name → given f.name = none →
            ProgramSettings.resolve (s.give f.name (.text c.value)) = ProgramSettings.resolve s ∧
            ∀ settings, ProgramSettings.resolve s = .valid settings →
              f.Holds settings c.value := by
  have hfile := Credential.fileText?_encode cs hending
  have hbindings := Credential.bindings_fileText cs hending
  refine ⟨hfile, hbindings, fun given env => ⟨_, Sources.ofFile?_eq hfile, ?_⟩⟩
  rw [hbindings]
  rintro earlier c later rfl hlast henv
  have hraw (field : String) (hgiven : given field = none) :
      Sources.raw? ⟨given, env, lookup env ((earlier ++ c :: later).map Credential.binding)⟩
        field c.name = some (.text c.value) := by
    simp only [Sources.raw?, hgiven, henv, lookup_credentials earlier hlast]
    rfl
  refine ⟨hraw, fun f hname hf hgiven => ?_, fun f hname hgiven => ?_⟩
  · have hfield := hraw f.name hgiven
    rw [← hname] at hfield
    refine ⟨ServiceSettings.resolve_give hfield, fun settings h => ?_⟩
    exact ServiceSettings.text?_of_resolve hf hfield h
  · have hfield := hraw f.name hgiven
    rw [← hname] at hfield
    refine ⟨ProgramSettings.resolve_give hfield, fun settings h => ?_⟩
    exact ProgramSettings.holds_of_resolve hfield h

/-- A value that looks like a comment and a binding, and ends with a backslash, is read back. -/
theorem credentials_are_kept_across_lines :
    let file := "RAZZLE_ONEGRAPH_APP_ID='old'\nOG_DASHBOARD_ACCESS_TOKEN='it\\'s #1\nA=\\\\'\n"
      ++ "RAZZLE_ONEGRAPH_APP_ID=' new '\n"
    ∃ (cs : List Credential) (s : Sources) (settings : ServiceSettings),
      cs.map (fun c => (c.name, c.value)) = [("RAZZLE_ONEGRAPH_APP_ID", "old"),
        ("OG_DASHBOARD_ACCESS_TOKEN", "it's #1\nA=\\"), ("RAZZLE_ONEGRAPH_APP_ID", " new ")] ∧
      String.ofList (Credential.fileText cs ['\n']) = file ∧
      Sources.ofFile? (fun _ => none) (fun _ => none) (some (Utf8.encode file)) = some s ∧
      ServiceSettings.resolve s = .valid settings ∧
      settings.appId = " new " ∧ settings.dashboardToken = "it's #1\nA=\\" := by
  intro file
  let old : Credential := ⟨"RAZZLE_ONEGRAPH_APP_ID", "old", by decide,
    by simp [IsPlainNameCharacter], by decide +kernel, by decide +kernel⟩
  let token : Credential := ⟨"OG_DASHBOARD_ACCESS_TOKEN", "it's #1\nA=\\", by decide,
    by simp [IsPlainNameCharacter], by decide +kernel, by decide +kernel⟩
  let new : Credential := ⟨"RAZZLE_ONEGRAPH_APP_ID", " new ", by decide,
    by simp [IsPlainNameCharacter], by decide +kernel, by decide +kernel⟩
  have htext : String.ofList (Credential.fileText [old, token, new] ['\n']) = file := by
    decide +kernel
  obtain ⟨hfile, hbindings, hkept⟩ := credentials_are_kept [old, token, new] ['\n'] (Or.inr rfl)
  obtain ⟨s, hs, hkept⟩ := hkept (fun _ => none) (fun _ => none)
  obtain ⟨happ, happ', -⟩ := hkept [old, token] new [] rfl nofun rfl
  obtain ⟨htoken, htoken', -⟩ := hkept [old] token [new] rfl (by decide +kernel) rfl
  have hsources := hs.symm.trans (Sources.ofFile?_eq hfile)
  rw [hbindings] at hsources
  obtain rfl := Option.some.inj hsources
  obtain ⟨settings, hsettings⟩ := ServiceSettings.exists_resolve_eq_valid_iff.2 fun f => by
    cases f with
    | appId => exact ⟨_, congrArg (Option.or · none) (happ _ rfl), _, rfl⟩
    | dashboardToken => exact ⟨_, congrArg (Option.or · none) (htoken _ rfl), _, rfl⟩
    | host => exact ⟨_, rfl, _, rfl⟩
    | path => exact ⟨_, rfl, _, rfl⟩
    | timeout => exact ⟨_, rfl, Or.inl rfl⟩
    | endpoint => exact ⟨_, rfl, Or.inl rfl⟩
  refine ⟨[old, token, new], _, settings, rfl, htext, htext ▸ hs, hsettings, ?_, ?_⟩
  · exact Option.some.inj ((happ' .appId rfl nofun rfl).2 settings hsettings)
  · exact Option.some.inj ((htoken' .dashboardToken rfl nofun rfl).2 settings hsettings)

end PersistedDocument
