import PersistedDocument.Proofs.Preview
import PersistedDocument.Proofs.Reports

/-!
# Proofs: the work on a document

`Proceeds` lists the ways in which the work on a document can go, from a document that cannot be
read up to an id, and the work goes in exactly one of them. Whichever it is, the work is orderly: an
error is reported if the work fails, as its last report, and not otherwise.
-/

namespace PersistedDocument.CommandLine

/-! ## Reading the document -/

/-- Where the document comes from: standard input, or a file whose name can be one and that can be
opened. -/
inductive Surroundings.Provides (s : Surroundings) : Option String → Octets → Prop
  | input : s.Provides none s.input
  | file {name : String} {octets : Octets} (hname : '\x00' ∉ name.toList)
    (hopen : s.openFile name = .ok octets) : s.Provides (some name) octets

/-- The document is a text. -/
def Surroundings.Holds (s : Surroundings) (file : Option String) (text : String) : Prop :=
  ∃ octets, s.Provides file octets ∧ documentText octets = .ok text

/-- The document is a text, and the stack lasts for reading its syntax. -/
def Surroundings.Reads (s : Surroundings) (file : Option String) (text : String) : Prop :=
  s.Holds file text ∧ s.exhausts text = false

section

variable {s : Surroundings} {file : Option String}

theorem documentText_of_undecodable {octets : Octets} (h : Utf8.decode? octets = none) :
    documentText octets = .error (.escaped .undecodableDocument) := by
  rw [documentText, h]

theorem readDocument_of_provides {octets : Octets} (h : s.Provides file octets) :
    readDocument s file = documentText octets := by
  cases h with
  | input => rfl
  | file hname hopen =>
    rw [readDocument, if_neg (mt List.contains_iff_mem.1 hname), hopen]

theorem readDocument_of_holds {text : String} (h : s.Holds file text) :
    readDocument s file = .ok text := by
  obtain ⟨octets, hprovides, htext⟩ := h
  rw [readDocument_of_provides hprovides, htext]

theorem readDocument_of_null {name : String} (hname : '\x00' ∈ name.toList) :
    readDocument s (some name) = .error (.escaped .nullInFileName) := by
  rw [readDocument, if_pos (List.contains_iff_mem.2 hname)]

variable (s file)

/-- A document is a text, or it is provided but is none, or it is not provided. -/
theorem readDocument_cases :
    (∃ text, s.Holds file text)
      ∨ (∃ octets, s.Provides file octets ∧ Utf8.decode? octets = none)
      ∨ (∃ name, file = some name ∧ '\x00' ∈ name.toList)
      ∨ ∃ reason, readDocument s file = .error (.reported reason) := by
  have hprovided (octets : Octets) (h : s.Provides file octets) :
      (∃ text, s.Holds file text)
        ∨ ∃ octets, s.Provides file octets ∧ Utf8.decode? octets = none := by
    cases hdecode : Utf8.decode? octets with
    | none => exact .inr ⟨octets, h, hdecode⟩
    | some cs =>
      have htext : documentText octets = .ok (String.ofList (Text.unifyNewlines cs.toList)) := by
        rw [documentText, hdecode]
      exact .inl ⟨_, octets, h, htext⟩
  cases file with
  | none => exact (hprovided s.input .input).imp_right .inl
  | some name =>
    by_cases hname : '\x00' ∈ name.toList
    · exact .inr (.inr (.inl ⟨name, rfl, hname⟩))
    · cases hopen : s.openFile name with
      | ok octets => exact (hprovided octets (.file hname hopen)).imp_right .inl
      | error e =>
        refine .inr (.inr (.inr ⟨e.message name, ?_⟩))
        rw [readDocument, if_neg (mt List.contains_iff_mem.1 hname), hopen]

end

/-! ## The ways of the work -/

/-- How the work on a document goes. A document that is not read is reported to be unreadable, has a
name that no file can have, is no text, or exhausts the stack. One that is read is shown or submitted,
or fails to be, at the latest if there is an id that cannot be shown. -/
inductive Proceeds (s : Surroundings) (t : Task) : Work → Prop
  | unreadable {reason : String} (hread : readDocument s t.file = .error (.reported reason)) :
    Proceeds s t (.fail [] [] (.unreadable reason))
  | unnameable {name : String} (hfile : t.file = some name) (hname : '\x00' ∈ name.toList) :
    Proceeds s t (.abandon [] [] .nullInFileName)
  | undecodable {octets : Octets} (hprovides : s.Provides t.file octets)
    (hdecode : Utf8.decode? octets = none) :
    Proceeds s t (.abandon [] [] .undecodableDocument)
  | exhausting {text : String} (hholds : s.Holds t.file text) (hexhausts : s.exhausts text = true) :
    Proceeds s t (.abandon [] [] .exhaustingDocument)
  | unshown {text : String} {f : Failure} {c : Collector} (hread : s.Reads t.file text)
    (hdry : t.dryRun = true) (ht : transform s.environment text .fresh = .error f c) :
    Proceeds s t (.fail [] c.events (failureEvent f))
  | shown {text : String} {t' : Transformed} {c : Collector} (hread : s.Reads t.file text)
    (hdry : t.dryRun = true) (ht : transform s.environment text .fresh = .ok t' c) :
    Proceeds s t
      ⟨[], c.events, .ofString (previewText t' ++ "\n"), .status succeeded⟩
  | persisted {text : String} {run : Run} {id : LooseText} (hread : s.Reads t.file text)
    (hdry : t.dryRun = false)
    (hcourse : Course s.world s.environment (settingsFrom s.sources?) text run)
    (hid : run.outcome = .ok id) (htakes : s.takes id = true) :
    Proceeds s t ⟨run.requests, run.events, id ++ .ofString "\n", .status succeeded⟩
  | unprintable {text : String} {run : Run} {id : LooseText} (hread : s.Reads t.file text)
    (hdry : t.dryRun = false)
    (hcourse : Course s.world s.environment (settingsFrom s.sources?) text run)
    (hid : run.outcome = .ok id) (htakes : s.takes id = false) :
    Proceeds s t (.abandon run.requests run.events .unprintable)
  | unpersisted {text : String} {run : Run} {e : RunError} (hread : s.Reads t.file text)
    (hdry : t.dryRun = false)
    (hcourse : Course s.world s.environment (settingsFrom s.sources?) text run)
    (he : run.outcome = .error e) : Proceeds s t (.ofError run.requests run.events e)

section

variable {s : Surroundings} {t : Task}

/-- Whatever standard output has encodings for, it takes ASCII. -/
theorem takes_iff {line : LooseText} :
    s.takes line = true ↔ ∀ c ∈ line, 0x80 ≤ c.toNat → s.encodes c = true := by
  simp only [Surroundings.takes, List.all_eq_true, Bool.or_eq_true, decide_eq_true_eq]
  exact forall₂_congr fun c _ => by rw [← Nat.not_le, Classical.or_iff_not_imp_left, not_not]

theorem takes_previewText (t' : Transformed) : s.takes (.ofString (previewText t')) = true := by
  refine takes_iff.2 fun c hc hbeyond => ?_
  obtain ⟨d, hd, rfl⟩ := List.mem_map.1 hc
  exact absurd hbeyond (Nat.not_le.2 (ascii_previewText t' d hd))

/-- What is shown is always printed. -/
theorem preview_of_transform {text : String} {t' : Transformed} {c : Collector}
    (ht : transform s.environment text .fresh = .ok t' c) :
    preview s text = ⟨[], c.events, .ofString (previewText t' ++ "\n"), .status succeeded⟩ := by
  rw [preview, ht]
  dsimp only
  rw [Work.print, if_pos (takes_previewText t'), LooseText.ofString_append]

theorem work_of_holds {text : String} (h : s.Holds t.file text) :
    t.work s = if s.exhausts text then .abandon [] [] .exhaustingDocument
      else if t.dryRun then preview s text else submission s text := by
  rw [Task.work, readDocument_of_holds h]

theorem work_of_reads {text : String} (h : s.Reads t.file text) :
    t.work s = if t.dryRun then preview s text else submission s text := by
  rw [work_of_holds h.1, h.2, if_neg Bool.false_ne_true]

theorem submission_of_outcome {text : String} {run : Run} {id : LooseText}
    (hcourse : Course s.world s.environment (settingsFrom s.sources?) text run)
    (hid : run.outcome = .ok id) :
    submission s text = .print s run.requests run.events id := by
  rw [submission, hcourse.eq_persist, hid]

/-- What a way says of the work is what the work is. -/
theorem Proceeds.eq_work {work : Work} (h : Proceeds s t work) : t.work s = work := by
  cases h with
  | unreadable hread => rw [Task.work, hread]
  | unnameable hfile hname => rw [Task.work, hfile, readDocument_of_null hname]
  | undecodable hprovides hdecode =>
    rw [Task.work, readDocument_of_provides hprovides, documentText_of_undecodable hdecode]
  | exhausting hholds hexhausts => rw [work_of_holds hholds, if_pos hexhausts]
  | unshown hread hdry ht => rw [work_of_reads hread, if_pos hdry, preview, ht]
  | shown hread hdry ht => rw [work_of_reads hread, if_pos hdry, preview_of_transform ht]
  | persisted hread hdry hcourse hid htakes =>
    rw [work_of_reads hread, hdry, if_neg Bool.false_ne_true, submission_of_outcome hcourse hid,
      Work.print, if_pos htakes]
  | unprintable hread hdry hcourse hid htakes =>
    rw [work_of_reads hread, hdry, if_neg Bool.false_ne_true, submission_of_outcome hcourse hid,
      Work.print, htakes, if_neg Bool.false_ne_true]
  | unpersisted hread hdry hcourse he =>
    rw [work_of_reads hread, hdry, if_neg Bool.false_ne_true, submission, hcourse.eq_persist, he]

variable (s t)

theorem exists_proceeds : ∃ work, Proceeds s t work := by
  rcases readDocument_cases s t.file with
    ⟨text, hholds⟩ | ⟨octets, hprovides, hdecode⟩ | ⟨name, hfile, hname⟩ | ⟨reason, hread⟩
  · cases hexhausts : s.exhausts text with
    | true => exact ⟨_, .exhausting hholds hexhausts⟩
    | false =>
    have hread : s.Reads t.file text := ⟨hholds, hexhausts⟩
    cases hdry : t.dryRun with
    | true =>
      cases ht : transform s.environment text .fresh with
      | error f c => exact ⟨_, .unshown hread hdry ht⟩
      | ok t' c => exact ⟨_, .shown hread hdry ht⟩
    | false =>
      obtain ⟨run, hcourse⟩ :=
        exists_course s.world s.environment (settingsFrom s.sources?) text
      cases he : run.outcome with
      | error e => exact ⟨_, .unpersisted hread hdry hcourse he⟩
      | ok id =>
        cases htakes : s.takes id with
        | true => exact ⟨_, .persisted hread hdry hcourse he htakes⟩
        | false => exact ⟨_, .unprintable hread hdry hcourse he htakes⟩
  · exact ⟨_, .undecodable hprovides hdecode⟩
  · exact ⟨_, .unnameable hfile hname⟩
  · exact ⟨_, .unreadable hread⟩

theorem proceeds_work : Proceeds s t (t.work s) := by
  obtain ⟨work, hproceeds⟩ := exists_proceeds s t
  rwa [hproceeds.eq_work]

end

/-! ## Orderly work -/

/-- Work that reports an error if it fails, as its last report, and none otherwise. -/
inductive Work.IsOrderly : Work → Prop
  | done {requests : List Request} {events : List Event} {output : LooseText}
    (hquiet : IsQuiet events) : IsOrderly ⟨requests, events, output, .status succeeded⟩
  | reported {requests : List Request} {before : List Event} {e : Event} (hquiet : IsQuiet before)
    (he : e.severity = .error) : IsOrderly (.fail requests before e)
  | abandoned {requests : List Request} {events : List Event} {e : Escape}
    (hquiet : IsQuiet events) : IsOrderly (.abandon requests events e)

theorem isOrderly_ofError (requests : List Request) {events : List Event}
    (hquiet : IsQuiet events) (e : RunError) : (Work.ofError requests events e).IsOrderly := by
  cases e with
  | failure | invalidSettings => exact .reported hquiet rfl
  | unreadableSettings | refused | fault | oversizedInteger | nestedTooDeeply
    | unattributableResponse =>
    exact .abandoned hquiet

theorem isOrderly_work (s : Surroundings) (t : Task) : (t.work s).IsOrderly := by
  have hproceeds := proceeds_work s t
  generalize t.work s = work at hproceeds
  cases hproceeds with
  | unreadable => exact .reported isQuiet_nil rfl
  | unnameable | undecodable | exhausting => exact .abandoned isQuiet_nil
  | unshown _ _ ht => exact .reported (isQuiet_of_transform_error ht) rfl
  | shown _ _ ht => exact .done (isQuiet_of_transform ht)
  | persisted _ _ hcourse => exact .done hcourse.isQuiet
  | unprintable _ _ hcourse => exact .abandoned hcourse.isQuiet
  | unpersisted _ _ hcourse => exact isOrderly_ofError _ hcourse.isQuiet _

/-! ## The program -/

/-- The program has its settings. -/
def Surroundings.Loads (s : Surroundings) (settings : ProgramSettings) : Prop :=
  ∃ sources, s.sources? = some sources ∧ ProgramSettings.resolve sources = .valid settings

/-- A program that has its settings and is asked to work on a document does so. -/
theorem runProgram_of_task {s : Surroundings} {settings : ProgramSettings}
    {arguments : List String} {t : Task} (hloads : s.Loads settings)
    (harguments : readArguments arguments = .ok (.task t)) :
    runProgram s arguments = (t.work s).finish s.stamp settings.threshold := by
  obtain ⟨sources, hsources, hsettings⟩ := hloads
  rw [runProgram, hsources]
  dsimp only
  rw [hsettings]
  dsimp only
  rw [runWith, harguments]

/-! ## Programs that read standard input -/

/-- Surroundings without files, in which standard output takes all characters. -/
def Surroundings.ofInput (environment : Environment) (input : String) (reply : Reply) :
    Surroundings :=
  ⟨environment, none, fun _ => .error .notFound, Utf8.encode input, fun _ => false,
    fun c => c.toChar?.isSome, "12:00", ⟨"1", "12:00", fun _ => 0, 1000, reply⟩⟩

theorem reads_ofInput {environment : Environment} {input : String} {reply : Reply}
    (h : Text.unifyNewlines input.toList = input.toList) :
    (Surroundings.ofInput environment input reply).Reads none input := by
  refine ⟨⟨_, .input, ?_⟩, rfl⟩
  show documentText (Utf8.encode input) = .ok input
  rw [documentText, Utf8.decode?_encode]
  dsimp only
  rw [h, String.ofList_toList]

end PersistedDocument.CommandLine
