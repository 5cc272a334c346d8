import PersistedDocument.Proofs.Output

/-!
# Proofs: errors that end the program

The program ends with a status or with an error that it does not report. `Escapes` lists the errors
that can end it so, each with its cause; `Succeeds` says when it does what was asked. In every other
case the program reports an error and ends with the status that says so.
-/

namespace PersistedDocument.CommandLine

/-- A request is sent for the document. -/
def Surroundings.Sends (s : Surroundings) (t : Task) (r : Request) : Prop :=
  ∃ text t' c settings, t.dryRun = false ∧ s.Reads t.file text
    ∧ transform s.environment text .fresh = .ok t' c
    ∧ settingsFrom s.sources? = .ok settings ∧ Request.prepare settings t' = .ok r

/-- The errors that end the program without being reported. The document has a name that no file can
have, is no text or exhausts the stack, or it is ready and there is no request for it, or there is one
and it meets a fault that is not about reaching the service, a response that cannot be judged, or an
id that cannot be shown. -/
inductive Surroundings.Escapes (s : Surroundings) (t : Task) : Escape → Prop
  | nullInFileName {name : String} (hfile : t.file = some name) (hname : '\x00' ∈ name.toList) :
    s.Escapes t .nullInFileName
  | undecodableDocument {octets : Octets} (hprovides : s.Provides t.file octets)
    (hdecode : Utf8.decode? octets = none) : s.Escapes t .undecodableDocument
  | exhaustingDocument {text : String} (hholds : s.Holds t.file text)
    (hexhausts : s.exhausts text = true) : s.Escapes t .exhaustingDocument
  | refused {text : String} {t' : Transformed} {c : Collector} {settings : ServiceSettings}
    {refusal : Refusal} (hdry : t.dryRun = false) (hread : s.Reads t.file text)
    (ht : transform s.environment text .fresh = .ok t' c)
    (hs : settingsFrom s.sources? = .ok settings) (hrefuses : settings.Refuses refusal) :
    s.Escapes t (.refused refusal)
  | fault {r : Request} {kind : Fault} {reason : String} (hsends : s.Sends t r)
    (hreply : s.world.reply = .fault kind reason) (hkind : kind.isTransport = false) :
    s.Escapes t (.fault kind)
  | unattributableResponse {r : Request} {status : Int} {body : Octets} (hsends : s.Sends t r)
    (hreply : s.world.reply = .response status body) (habsolute : ¬r.address.isAbsolute = true) :
    s.Escapes t .unattributableResponse
  | oversizedInteger {r : Request} {status : Int} {body : Octets} (hsends : s.Sends t r)
    (hreply : s.world.reply = .response status body) (habsolute : r.address.isAbsolute = true)
    (hbody : IsOversized s.world.room body) : s.Escapes t .oversizedInteger
  | nestedTooDeeply {r : Request} {status : Int} {body : Octets} (hsends : s.Sends t r)
    (hreply : s.world.reply = .response status body) (habsolute : r.address.isAbsolute = true)
    (hbody : IsTooDeep s.world.room body) : s.Escapes t .nestedTooDeeply
  | unprintable {r : Request} {status : Int} {body : Octets} {id : LooseText} {c : CodePoint}
    (hsends : s.Sends t r) (hreply : s.world.reply = .response status body)
    (habsolute : r.address.isAbsolute = true) (hid : judge s.world.room status body = .ok id)
    (hmem : c ∈ id) (hbeyond : 0x80 ≤ c.toNat) (hencodes : s.encodes c = false) :
    s.Escapes t .unprintable

/-- The program does what was asked: the document is ready and is to be shown, or the response to
its request holds an id that can be shown. -/
inductive Surroundings.Succeeds (s : Surroundings) (t : Task) : Prop
  | shown {text : String} {t' : Transformed} {c : Collector} (hdry : t.dryRun = true)
    (hread : s.Reads t.file text) (ht : transform s.environment text .fresh = .ok t' c)
  | persisted {r : Request} {status : Int} {body : Octets} {id : LooseText} (hsends : s.Sends t r)
    (hreply : s.world.reply = .response status body) (habsolute : r.address.isAbsolute = true)
    (hid : judge s.world.room status body = .ok id)
    (hprints : ∀ c ∈ id, 0x80 ≤ c.toNat → s.encodes c = true)

section

variable {s : Surroundings} {t : Task}

/-! ## Escapes -/

theorem takes_eq_false_iff {line : LooseText} :
    s.takes line = false ↔ ∃ c ∈ line, 0x80 ≤ c.toNat ∧ s.encodes c = false := by
  rw [Bool.eq_false_iff, ne_eq, takes_iff]
  push Not
  simp only [ne_eq, Bool.not_eq_true]

theorem ending_of_escapes {e : Escape} (h : s.Escapes t e) : (t.work s).ending = .escape e := by
  cases h with
  | nullInFileName hfile hname =>
    rw [(Proceeds.unnameable hfile hname).eq_work]
    rfl
  | undecodableDocument hprovides hdecode =>
    rw [(Proceeds.undecodable hprovides hdecode).eq_work]
    rfl
  | exhaustingDocument hholds hexhausts =>
    rw [(Proceeds.exhausting hholds hexhausts).eq_work]
    rfl
  | refused hdry hread ht hs hrefuses =>
    rw [(Proceeds.unpersisted hread hdry (.refused ht hs hrefuses) rfl).eq_work]
    rfl
  | fault hsends hreply hkind =>
    obtain ⟨_, _, _, _, hdry, hread, ht, hs, hr⟩ := hsends
    rw [(Proceeds.unpersisted hread hdry (.faulted ht hs hr hreply) rfl).eq_work, faultError,
      hkind]
    rfl
  | unattributableResponse hsends hreply habsolute =>
    obtain ⟨_, _, _, _, hdry, hread, ht, hs, hr⟩ := hsends
    rw [(Proceeds.unpersisted hread hdry (.unattributable ht hs hr hreply habsolute) rfl).eq_work]
    rfl
  | oversizedInteger hsends hreply habsolute hbody =>
    obtain ⟨_, _, _, _, hdry, hread, ht, hs, hr⟩ := hsends
    rw [(Proceeds.unpersisted hread hdry (.judged ht hs hr hreply habsolute)
      (judge_of_isOversized _ hbody)).eq_work]
    rfl
  | nestedTooDeeply hsends hreply habsolute hbody =>
    obtain ⟨_, _, _, _, hdry, hread, ht, hs, hr⟩ := hsends
    rw [(Proceeds.unpersisted hread hdry (.judged ht hs hr hreply habsolute)
      (judge_of_isTooDeep _ hbody)).eq_work]
    rfl
  | unprintable hsends hreply habsolute hid hmem hbeyond hencodes =>
    obtain ⟨_, _, _, _, hdry, hread, ht, hs, hr⟩ := hsends
    have htakes := takes_eq_false_iff.2 ⟨_, hmem, hbeyond, hencodes⟩
    rw [(Proceeds.unprintable hread hdry (.judged ht hs hr hreply habsolute) hid htakes).eq_work]
    rfl

/-- Sources that can be read give settings or say what is wrong with them. -/
theorem settingsFrom_eq_error {sources : Settings.Sources} {e : RunError}
    (h : settingsFrom (some sources) = .error e) : ∃ ps, e = .invalidSettings ps := by
  rw [settingsFrom] at h
  split at h
  · cases h
  · exact ⟨_, (Except.error.inj h).symm⟩

/-- A run that gives no id and does not report why meets one of the errors that escape. -/
theorem escapes_of_course {sources : Settings.Sources} {text : String} {run : Run} {e : RunError}
    {escape : Escape} (hsources : s.sources? = some sources) (hread : s.Reads t.file text)
    (hdry : t.dryRun = false)
    (hcourse : Course s.world s.environment (settingsFrom s.sources?) text run)
    (he : run.outcome = .error e)
    (hending : (Work.ofError run.requests run.events e).ending = .escape escape) :
    s.Escapes t escape := by
  -- The failures of a known kind are reported, so only the last four ways lead to an escape.
  cases hcourse with
  | untransformed ht =>
    cases he
    cases hending
  | unsettled ht hs =>
    cases he
    rw [hsources] at hs
    obtain ⟨ps, rfl⟩ := settingsFrom_eq_error hs
    cases hending
  | refused ht hs hrefuses =>
    cases he
    cases hending
    exact .refused hdry hread ht hs hrefuses
  | @faulted _ _ _ _ kind _ ht hs hr hreply =>
    cases he
    rw [faultError] at hending
    cases hkind : kind.isTransport with
    | true =>
      rw [hkind] at hending
      cases hending
    | false =>
      rw [hkind] at hending
      cases hending
      exact .fault ⟨_, _, _, _, hdry, hread, ht, hs, hr⟩ hreply hkind
  | unattributable ht hs hr hreply habsolute =>
    cases he
    cases hending
    exact .unattributableResponse ⟨_, _, _, _, hdry, hread, ht, hs, hr⟩ hreply habsolute
  | @judged _ _ _ _ status body ht hs hr hreply habsolute =>
    have hjudge : judge s.world.room status body = .error e := he
    have hsends : s.Sends t _ := ⟨_, _, _, _, hdry, hread, ht, hs, hr⟩
    rcases judge_cases s.world.room status body with
      ⟨_, h⟩ | ⟨_, h⟩ | ⟨_, h⟩ | ⟨hlong, h⟩ | ⟨hdeep, h⟩
    · cases h.symm.trans hjudge
    · cases h.symm.trans hjudge
      cases hending
    · cases h.symm.trans hjudge
      cases hending
    · cases h.symm.trans hjudge
      cases hending
      exact .oversizedInteger hsends hreply habsolute hlong
    · cases h.symm.trans hjudge
      cases hending
      exact .nestedTooDeeply hsends hreply habsolute hdeep

/-- The errors that end the work are those that escape, if there are sources of settings. -/
theorem ending_eq_escape_iff {sources : Settings.Sources} (hsources : s.sources? = some sources)
    {e : Escape} : (t.work s).ending = .escape e ↔ s.Escapes t e := by
  refine ⟨fun hending => ?_, ending_of_escapes⟩
  have hproceeds := proceeds_work s t
  generalize t.work s = work at hproceeds hending
  -- A document that is read can only escape if it is submitted and gets no id that can be shown.
  cases hproceeds with
  | unreadable | unshown | shown | persisted => cases hending
  | unnameable hfile hname =>
    cases hending
    exact .nullInFileName hfile hname
  | undecodable hprovides hdecode =>
    cases hending
    exact .undecodableDocument hprovides hdecode
  | exhausting hholds hexhausts =>
    cases hending
    exact .exhaustingDocument hholds hexhausts
  | unprintable hread hdry hcourse hid htakes =>
    cases hending
    obtain ⟨_, _, _, r, status, body, ht, hs, hr, -, hreply, habsolute, hjudge⟩ :=
      hcourse.of_outcome_ok hid
    obtain ⟨c, hmem, hbeyond, hencodes⟩ := takes_eq_false_iff.1 htakes
    exact .unprintable ⟨_, _, _, _, hdry, hread, ht, hs, hr⟩ hreply habsolute hjudge hmem hbeyond
      hencodes
  | unpersisted hread hdry hcourse he =>
    exact escapes_of_course hsources hread hdry hcourse he hending

/-! ## Success -/

theorem ending_eq_succeeded_iff : (t.work s).ending = .status succeeded ↔ s.Succeeds t := by
  constructor
  · intro hending
    have hproceeds := proceeds_work s t
    generalize t.work s = work at hproceeds hending
    cases hproceeds with
    | unreadable | unnameable | undecodable | exhausting | unshown | unprintable => cases hending
    | shown hread hdry ht => exact .shown hdry hread ht
    | persisted hread hdry hcourse hid htakes =>
      obtain ⟨_, _, _, r, status, body, ht, hs, hr, -, hreply, habsolute, hjudge⟩ :=
        hcourse.of_outcome_ok hid
      exact .persisted ⟨_, _, _, _, hdry, hread, ht, hs, hr⟩ hreply habsolute hjudge
        (takes_iff.1 htakes)
    | unpersisted => exact absurd hending (ending_ofError_ne_succeeded _ _ _)
  · intro hsucceeds
    cases hsucceeds with
    | shown hdry hread ht => rw [(Proceeds.shown hread hdry ht).eq_work]
    | persisted hsends hreply habsolute hid hprints =>
      obtain ⟨_, _, _, _, hdry, hread, ht, hs, hr⟩ := hsends
      rw [(Proceeds.persisted hread hdry (.judged ht hs hr hreply habsolute) hid
        (takes_iff.2 hprints)).eq_work]

theorem Work.IsOrderly.ending_cases {work : Work} (h : work.IsOrderly) :
    work.ending = .status succeeded ∨ work.ending = .status failed
      ∨ ∃ e, work.ending = .escape e := by
  cases h with
  | done => exact .inl rfl
  | reported => exact .inr (.inl rfl)
  | abandoned => exact .inr (.inr ⟨_, rfl⟩)

/-! ## The program -/

/-- A program that is asked to work on a document ends with an error of its own exactly for the
causes that are listed, and with success exactly if it does what was asked. In all other cases it
reports an error, after which it reports nothing, and ends with the status of a failure. The report
is shown unless the threshold is above errors. -/
theorem ending_runProgram {settings : ProgramSettings} {arguments : List String}
    (hloads : s.Loads settings) (harguments : readArguments arguments = .ok (.task t)) :
    (∀ e, (runProgram s arguments).ending = .escape e ↔ s.Escapes t e) ∧
    ((runProgram s arguments).ending = .status succeeded ↔ s.Succeeds t) ∧
    ((∀ e, ¬s.Escapes t e) → ¬s.Succeeds t →
      (runProgram s arguments).ending = .status failed ∧ EndsWithError (t.work s).events ∧
      (¬settings.threshold.IsSilent → EndsWithError (s.logged settings t))) := by
  rw [runProgram_of_task hloads harguments]
  obtain ⟨sources, hsources, -⟩ := hloads
  refine ⟨fun e => ending_eq_escape_iff hsources, ending_eq_succeeded_iff,
    fun hescapes hsucceeds => ?_⟩
  have horderly := isOrderly_work s t
  have hending : (t.work s).ending = .status failed := by
    rcases horderly.ending_cases with hdone | hfailed | ⟨e, hescape⟩
    · exact absurd (ending_eq_succeeded_iff.1 hdone) hsucceeds
    · exact hfailed
    · exact absurd ((ending_eq_escape_iff hsources).1 hescape) (hescapes e)
  have hends := horderly.endsWithError hending
  exact ⟨hending, hends, fun hthreshold => hends.filter hthreshold⟩

end

/-- Surroundings in which a file holds an octet that begins no character. -/
def brokenSurroundings : Surroundings :=
  { Surroundings.ofInput (fun _ => none) "" (.response 200 []) with
    openFile := fun name => if name = "f" then .ok [0xFF] else .error .notFound }

theorem loads_brokenSurroundings :
    brokenSurroundings.Loads ⟨"persist_query", "0.1.0", .info⟩ :=
  ⟨_, rfl, by rfl⟩

theorem escapes_brokenSurroundings :
    brokenSurroundings.Escapes ⟨some "f", true⟩ .undecodableDocument := by
  have hname : '\x00' ∉ "f".toList := by decide
  have hdecode : Utf8.decode? [0xFF] = none := by cbv
  exact .undecodableDocument (.file hname rfl) hdecode

/-- An octet that begins no character ends the program with an error of its own. -/
theorem ending_runProgram_broken :
    brokenSurroundings.Loads ⟨"persist_query", "0.1.0", .info⟩ ∧
      readArguments ["--dry-run", "f"] = .ok (.task ⟨some "f", true⟩) ∧
      (runProgram brokenSurroundings ["--dry-run", "f"]).ending
        = .escape .undecodableDocument := by
  have harguments : readArguments ["--dry-run", "f"] = .ok (.task ⟨some "f", true⟩) := by rfl
  have hescapes := (ending_runProgram loads_brokenSurroundings harguments).1
  exact ⟨loads_brokenSurroundings, harguments, (hescapes _).2 escapes_brokenSurroundings⟩

/-- The program need not end with a status. -/
theorem not_forall_ending_status :
    ¬∀ (s : Surroundings) (settings : ProgramSettings) (arguments : List String) (t : Task),
      s.Loads settings → readArguments arguments = .ok (.task t) →
      (runProgram s arguments).ending = .status succeeded
        ∨ (runProgram s arguments).ending = .status failed := by
  intro h
  have harguments : readArguments ["--dry-run", "f"] = .ok (.task ⟨some "f", true⟩) := by rfl
  have hending := h _ _ _ _ loads_brokenSurroundings harguments
  rw [runProgram_of_task loads_brokenSurroundings harguments] at hending
  have hescape : ((Task.work brokenSurroundings ⟨some "f", true⟩).finish
      brokenSurroundings.stamp .info).ending = .escape .undecodableDocument :=
    ending_of_escapes escapes_brokenSurroundings
  rw [hescape] at hending
  rcases hending with hsucceeded | hfailed
  · cases hsucceeded
  · cases hfailed

end PersistedDocument.CommandLine
