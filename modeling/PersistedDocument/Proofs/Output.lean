import PersistedDocument.Proofs.Program

/-!
# Proofs: what the program writes

Standard output holds an id, or a preview, or nothing: whoever captures it never takes a failure for
an id. The log of a failure ends with its only error, unless it is configured to hold nothing: no
event is graver than an error, so the two thresholds above errors let none through.
-/

namespace PersistedDocument

/-! ## What a threshold lets through -/

/-- Thresholds above errors. -/
def Threshold.IsSilent (threshold : Threshold) : Prop :=
  threshold = .critical ∨ threshold = .fatal

theorem Threshold.admits_of_error {threshold : Threshold} (h : ¬threshold.IsSilent) {e : Event}
    (he : e.severity = .error) : threshold.admits e = true := by
  rw [admits, he]
  cases threshold with
  | critical => exact absurd (.inl rfl) h
  | fatal => exact absurd (.inr rfl) h
  | error | warn | warning | info | debug | notSet => rfl

theorem Threshold.IsSilent.admits_eq_false {threshold : Threshold} (h : threshold.IsSilent)
    (e : Event) : threshold.admits e = false := by
  rw [Threshold.admits]
  rcases h with rfl | rfl <;> cases e.severity <;> rfl

theorem IsQuiet.filter {events : List Event} (h : IsQuiet events) (p : Event → Bool) :
    IsQuiet (events.filter p) :=
  fun e he => h e (List.mem_of_mem_filter he)

namespace CommandLine

/-- The reports of the work on a document that are shown. -/
def Surroundings.logged (s : Surroundings) (settings : ProgramSettings) (t : Task) : List Event :=
  (t.work s).events.filter settings.threshold.admits

/-- A log that ends with its only error. -/
def EndsWithError (events : List Event) : Prop :=
  ∃ before e, events = before ++ [e] ∧ e.severity = .error ∧ IsQuiet before

theorem EndsWithError.filter {threshold : Threshold} (h : ¬threshold.IsSilent)
    {events : List Event} (hends : EndsWithError events) :
    EndsWithError (events.filter threshold.admits) := by
  obtain ⟨before, e, rfl, he, hquiet⟩ := hends
  refine ⟨before.filter threshold.admits, e, ?_, he, hquiet.filter _⟩
  rw [List.filter_append, List.filter_cons_of_pos (Threshold.admits_of_error h he),
    List.filter_nil]

/-! ## Orderly work -/

section

variable {work : Work} (h : work.IsOrderly)

include h

theorem Work.IsOrderly.output_eq_nil (hending : work.ending ≠ .status succeeded) :
    work.output = [] := by
  cases h with
  | done => exact absurd rfl hending
  | reported | abandoned => rfl

theorem Work.IsOrderly.endsWithError (hending : work.ending = .status failed) :
    EndsWithError work.events := by
  cases h with
  | done => cases hending
  | reported hquiet he => exact ⟨_, _, rfl, he, hquiet⟩
  | abandoned => cases hending

theorem Work.IsOrderly.isQuiet (hending : work.ending = .status succeeded) :
    IsQuiet work.events := by
  cases h with
  | done hquiet => exact hquiet
  | reported | abandoned => cases hending

end

/-! ## Work that is done -/

section

variable {s : Surroundings} {t : Task}

theorem ending_ofError_ne_succeeded (requests : List Request) (before : List Event)
    (e : RunError) : (Work.ofError requests before e).ending ≠ .status succeeded := by
  cases e <;> nofun

/-- A document that is to be shown and is shown gives an object, and no request is sent. -/
theorem work_of_shown (hdry : t.dryRun = true) (hending : (t.work s).ending = .status succeeded) :
    (t.work s).requests = []
      ∧ ∃ members, ∀ room, 2 ≤ room →
        Json.read room (t.work s).output = .ok (.object members) := by
  have hproceeds := proceeds_work s t
  generalize t.work s = work at hproceeds hending ⊢
  cases hproceeds with
  | unreadable | unnameable | undecodable | exhausting | unshown | unprintable => cases hending
  | shown =>
    -- The output must be seen before it is compared with what is read, which evaluates it.
    refine ⟨rfl, ?_⟩
    dsimp only
    exact exists_read_previewText _
  | persisted _ hsubmit => exact absurd (hsubmit.symm.trans hdry) Bool.false_ne_true
  | unpersisted => exact absurd hending (ending_ofError_ne_succeeded _ _ _)

/-- A document that is to be submitted and gets an id gets it from the response to one request. -/
theorem work_of_persisted (hdry : t.dryRun = false)
    (hending : (t.work s).ending = .status succeeded) :
    ∃ r status body id, (t.work s).requests = [r] ∧ s.world.reply = .response status body
      ∧ judge s.world.room status body = .ok id ∧ (t.work s).output = id ++ .ofString "\n" := by
  have hproceeds := proceeds_work s t
  generalize t.work s = work at hproceeds hending ⊢
  cases hproceeds with
  | unreadable | unnameable | undecodable | exhausting | unshown | unprintable => cases hending
  | shown _ hshow => exact absurd (hdry.symm.trans hshow) Bool.false_ne_true
  | persisted _ _ hcourse hid =>
    obtain ⟨_, _, _, r, status, body, -, -, -, hrequests, hreply, -, hjudge⟩ :=
      hcourse.of_outcome_ok hid
    exact ⟨r, status, body, _, hrequests, hreply, hjudge, rfl⟩
  | unpersisted => exact absurd hending (ending_ofError_ne_succeeded _ _ _)

end

/-! ## The program -/

/-- The program writes its log to standard error. It writes nothing to standard output unless it
succeeds. If it fails its log ends with its only error, unless the threshold is above errors, and
then nothing is logged. If it succeeds without submitting it sends no request and writes an object;
if it succeeds in submitting it sends one request and writes the id in the response to it, and it
logs no error. -/
theorem output_discipline {s : Surroundings} {settings : ProgramSettings}
    {arguments : List String} {t : Task} (hloads : s.Loads settings)
    (harguments : readArguments arguments = .ok (.task t)) :
    ∃ finished, runProgram s arguments = finished ∧
      finished.errorOutput = (s.logged settings t).flatMap (logLine s.stamp) ∧
      (finished.ending ≠ .status succeeded → finished.output = []) ∧
      (finished.ending = .status failed →
        (¬settings.threshold.IsSilent → EndsWithError (s.logged settings t)) ∧
        (settings.threshold.IsSilent → s.logged settings t = [])) ∧
      (finished.ending = .status succeeded → t.dryRun = true →
        finished.requests = [] ∧
        ∃ members, ∀ room, 2 ≤ room → Json.read room finished.output = .ok (.object members)) ∧
      (finished.ending = .status succeeded → t.dryRun = false →
        (∃ r status body id, finished.requests = [r] ∧ s.world.reply = .response status body ∧
          judge s.world.room status body = .ok id ∧ finished.output = id ++ .ofString "\n") ∧
        IsQuiet (s.logged settings t)) := by
  have horderly := isOrderly_work s t
  refine ⟨_, runProgram_of_task hloads harguments, rfl, horderly.output_eq_nil,
    fun hending => ⟨fun hthreshold => ?_, fun hthreshold => ?_⟩,
    fun hending hdry => work_of_shown hdry hending,
    fun hending hdry => ⟨work_of_persisted hdry hending, (horderly.isQuiet hending).filter _⟩⟩
  · exact (horderly.endsWithError hending).filter hthreshold
  · exact List.filter_eq_nil_iff.2 fun e _ => Bool.eq_false_iff.1 (hthreshold.admits_eq_false e)

section

set_option maxRecDepth 2048

/-- A brace that is not closed is no document. -/
theorem transform_openBrace (environment : Environment) :
    transform environment "\x7b" .fresh
      = .error (.parse "Syntax Error: Expected Name, found <EOF>.") .fresh := by
  have hparse : GraphQL.Document.parse "\x7b" = .error (.expected .name none) := by cbv
  have hmessage : (GraphQL.SyntaxError.expected .name none).message
      = "Syntax Error: Expected Name, found <EOF>." := rfl
  rw [← hmessage]
  exact transform_of_parse_error hparse .fresh

theorem work_openBrace (environment : Environment) (reply : Reply) :
    Task.work (.ofInput environment "\x7b" reply) ⟨none, true⟩
      = .fail [] [] (failureEvent (.parse "Syntax Error: Expected Name, found <EOF>.")) := by
  have hread : (Surroundings.ofInput environment "\x7b" reply).Reads none "\x7b" :=
    reads_ofInput (by cbv)
  have hproceeds : Proceeds (.ofInput environment "\x7b" reply) ⟨none, true⟩ _ :=
    .unshown hread rfl (transform_openBrace environment)
  exact hproceeds.eq_work

end

/-- At the usual threshold the log of a failure ends with an error. -/
theorem output_discipline_openBrace :
    (Surroundings.ofInput (fun _ => none) "\x7b" (.response 200 [])).Loads
        ⟨"persist_query", "0.1.0", .info⟩ ∧
      readArguments ["--dry-run"] = .ok (.task ⟨none, true⟩) ∧
      (runProgram (.ofInput (fun _ => none) "\x7b" (.response 200 [])) ["--dry-run"]).output = [] ∧
      EndsWithError ((Surroundings.ofInput (fun _ => none) "\x7b" (.response 200 [])).logged
        ⟨"persist_query", "0.1.0", .info⟩ ⟨none, true⟩) := by
  have hloads : (Surroundings.ofInput (fun _ => none) "\x7b" (.response 200 [])).Loads
      ⟨"persist_query", "0.1.0", .info⟩ := ⟨_, rfl, by rfl⟩
  have harguments : readArguments ["--dry-run"] = .ok (.task ⟨none, true⟩) := by rfl
  obtain ⟨finished, hfinished, -, houtput, hlog, -⟩ := output_discipline hloads harguments
  have hending : finished.ending = .status failed := by
    rw [← hfinished, runProgram_of_task hloads harguments, work_openBrace]
    rfl
  rw [hfinished]
  exact ⟨hloads, harguments, houtput (by rw [hending]; nofun), (hlog hending).1 nofun⟩

/-- The log of a failure need not end with an error. -/
theorem not_forall_endsWithError :
    ¬∀ (s : Surroundings) (settings : ProgramSettings) (arguments : List String) (t : Task),
      s.Loads settings → readArguments arguments = .ok (.task t) →
      (runProgram s arguments).ending = .status failed → EndsWithError (s.logged settings t) := by
  intro h
  have hloads : (Surroundings.ofInput
      (fun v => if v = "PERSIST_QUERY_LOG_LEVEL" then some "critical" else none) "\x7b"
      (.response 200 [])).Loads ⟨"persist_query", "0.1.0", .critical⟩ := ⟨_, rfl, by rfl⟩
  have harguments : readArguments ["--dry-run"] = .ok (.task ⟨none, true⟩) := by rfl
  have hends := h _ _ _ _ hloads harguments (by
    rw [runProgram_of_task hloads harguments, work_openBrace]
    rfl)
  rw [Surroundings.logged, work_openBrace] at hends
  obtain ⟨before, e, hnone, -⟩ := hends
  exact List.cons_ne_nil _ _ (List.append_eq_nil_iff.1 hnone.symm).2

end CommandLine

end PersistedDocument
