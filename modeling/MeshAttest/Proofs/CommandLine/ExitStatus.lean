import MeshAttest.CommandLine.Basic
import MeshAttest.Proofs.Verifier.Entries
import MeshAttest.Proofs.Verifier.Submission

/-!
# What an exit status says

The program may be taken at its word. It ends with a status only after a submission
(`CommandLine.run_of_asksFor`, `CommandLine.run_of_not_asksFor`), and a file from which no entries
can be made comes to none. The statuses 0 and 2 say that the entries of the file have been posted
with the nonce, and that the two replies vouch for the verdict (`CommandLine.Attested`); the program
ends so whenever that is the case. The status 1 says that the attestation has failed. All of this is
`CommandLine.run_exitStatus`.
-/

set_option autoImplicit false

namespace MeshAttest.CommandLine

open Outcome Attempt

variable {surroundings : Surroundings} {texts : List String} {replies : List Reply}
  {arguments : Arguments} {architecture : Architecture} {entries : List Entry}

/-! ### Files -/

/-- The text of a file is JSON, whatever its line ends are, and lists the entries. -/
def Holds (text : String) (entries : List Entry) : Prop :=
  ∃ saved, Json.parse (String.ofList (Text.unifyLineEnds text.toList)) = .ok saved ∧
    saved.Lists entries

/-- Entries come from a file exactly if it can be read and its text holds them. -/
theorem savedEntries_eq_ok_iff {name : String} :
    savedEntries surroundings name = .ok entries ↔
      ∃ text, surroundings.fileText name = .ok text ∧ Holds text entries := by
  simp only [savedEntries, bind_eq_ok_iff, mapError_eq_ok_iff, Entry.listOfJson_eq_ok_iff, Holds]

/-! ### Submissions -/

/-- The arguments ask for a submission of the entries that a file holds. -/
def AsksFor (surroundings : Surroundings) (arguments : Arguments) (entries : List Entry)
    (architecture : Architecture) : Prop :=
  (∃ name, arguments.file = some name ∧ savedEntries surroundings name = .ok entries) ∧
    arguments.architecture = some architecture

/-- A command that asks for a submission makes it, and its exit status stands for the outcome. -/
theorem run_of_asksFor (harguments : Arguments.parse texts = .ok arguments)
    (h : AsksFor surroundings arguments entries architecture) (replies : List Reply) :
    run surroundings texts replies =
      (exitStatus ((submit surroundings architecture arguments.nonce entries).runWith replies).1,
        ((submit surroundings architecture arguments.nonce entries).runWith replies).2) := by
  obtain ⟨⟨name, hname, hentries⟩, harchitecture⟩ := h
  unfold run
  simp only [harguments, hname, hentries, harchitecture]

/-- A command that asks for none ends with an error that nothing catches, before anything is
sent. -/
theorem run_of_not_asksFor (harguments : Arguments.parse texts = .ok arguments)
    (h : ∀ entries architecture, ¬ AsksFor surroundings arguments entries architecture)
    (replies : List Reply) :
    ∃ fault, run surroundings texts replies = (.error fault, Wire.ofReplies replies) := by
  unfold run
  simp only [harguments]
  cases hname : arguments.file with
  | none => exact ⟨_, rfl⟩
  | some name =>
    cases hentries : savedEntries surroundings name with
    | error fault =>
      simp only [hentries]
      exact ⟨fault, rfl⟩
    | ok entries =>
      cases harchitecture : arguments.architecture with
      | none =>
        simp only [hentries]
        exact ⟨_, rfl⟩
      | some architecture =>
        exact absurd ⟨⟨name, hname, hentries⟩, harchitecture⟩ (h entries architecture)

/-- Either there is a submission and the status is that of its outcome, or nothing happens and there
is no status. -/
theorem run_cases (surroundings : Surroundings) (harguments : Arguments.parse texts = .ok arguments)
    (replies : List Reply) :
    (∃ entries architecture, AsksFor surroundings arguments entries architecture ∧
      run surroundings texts replies =
        (exitStatus ((submit surroundings architecture arguments.nonce entries).runWith replies).1,
          ((submit surroundings architecture arguments.nonce entries).runWith replies).2)) ∨
      ∃ fault, run surroundings texts replies = (.error fault, Wire.ofReplies replies) := by
  by_cases h : ∃ entries architecture, AsksFor surroundings arguments entries architecture
  · obtain ⟨entries, architecture, hasks⟩ := h
    exact .inl ⟨entries, architecture, hasks, run_of_asksFor harguments hasks replies⟩
  · exact .inr (run_of_not_asksFor harguments
      (fun entries architecture hasks ↦ h ⟨entries, architecture, hasks⟩) replies)

/-- The nonce as it is submitted: its text, or an empty list if it lacks one. -/
def submittedNonce : Option String → SubmittedNonce
  | some text => .text text
  | none => .absent

/-- The submission is one of a client that is set up from the environment. Its items are the entries
of the file, and its nonce is the text that was given, if any was. -/
theorem submit_eq (nonce : Option String) :
    submit surroundings architecture nonce entries =
      (Client.create architecture (.ofEnvironment surroundings.environment)).submit
        surroundings.now (entries.map .device) (submittedNonce nonce) none := by
  cases nonce with
  | none => rfl
  | some text => rfl

/-- The requests are one that posts the entries with the nonce and one for a key set, and the first
two replies vouch for the verdict. -/
def Attested (now : Int) (nonce : Json) (entries : List Entry) (replies : List Reply)
    (events : List Event) (verdict : Bool) : Prop :=
  ∃ url body headers postTimeout location getTimeout,
    events = [.request (.post url body headers postTimeout),
      .request (.get location getTimeout)] ∧
    body.get? "nonce" = some nonce ∧
    body.get? "evidence_list" = some (.array (entries.map Entry.toJson)) ∧
    ∃ posted fetched rest response, replies = posted :: fetched :: rest ∧
      Client.Vouches now posted fetched verdict response

/-- The statuses zero and two stand for the two verdicts, and for nothing else. -/
theorem exitStatus_eq_verdict_iff {outcome : Except Failure (Bool × Json)} {verdict : Bool} :
    exitStatus outcome = .ok (if verdict then 0 else 2) ↔
      ∃ response, outcome = .ok (verdict, response) := by
  cases outcome with
  | error failure =>
    cases verdict <;> cases hkind : failure.isOfAttestation <;> simp [exitStatus, hkind]
  | ok result =>
    obtain ⟨other, response⟩ := result
    cases verdict <;> cases other <;> simp [exitStatus]

/-- The status one stands for the failures that belong to attestation, and for no others. -/
theorem exitStatus_eq_one_iff {outcome : Except Failure (Bool × Json)} :
    exitStatus outcome = .ok 1 ↔
      ∃ failure, outcome = .error failure ∧ failure.isOfAttestation = true := by
  cases outcome with
  | error failure => cases hkind : failure.isOfAttestation <;> simp [exitStatus, hkind]
  | ok result =>
    obtain ⟨verdict, response⟩ := result
    cases verdict <;> simp [exitStatus]

/-! ### Exit statuses -/

/-- A submission that returns has been attested by the two replies that it took. -/
theorem attested_of_submit {response : Json} {wire : Wire} {nonce : Option String}
    {verdict : Bool} (h : (submit surroundings architecture nonce entries).runWith replies =
      (.ok (verdict, response), wire)) :
    Attested surroundings.now (submittedNonce nonce).toJson entries replies wire.events
      verdict := by
  rw [submit_eq, runWith_eq_runOn] at h
  obtain ⟨requests, posted, fetched, hcompleted, hevents, hreplies, hvouches⟩ :=
    Client.submit_runOn_eq_ok_iff.mp h
  obtain ⟨post, get, rfl, ⟨body, hbody, rfl⟩, location, -, rfl⟩ :=
    Client.plan_completed_iff.mp hcompleted
  have hdevice (entry : Entry) : (Item.device entry).entry = .ok (id entry) := rfl
  obtain rfl := (payload_map_eq_ok_iff hdevice).mp hbody
  rw [List.map_id] at hevents
  exact ⟨_, _, _, _, _, _, hevents, rfl, rfl, posted, fetched, _, response, hreplies, hvouches⟩

/-- As two requests are all that a submission sends, one that has sent two has not failed before it
had the second reply. -/
theorem submit_of_attested {nonce : Option String} {json : Json} {others : List Entry}
    {verdict : Bool} (h : Attested surroundings.now json others replies
      ((submit surroundings architecture nonce entries).runWith replies).2.events verdict) :
    ∃ response, ((submit surroundings architecture nonce entries).runWith replies).1 =
      .ok (verdict, response) := by
  rw [submit_eq, runWith_eq_runOn] at h ⊢
  obtain ⟨_, _, _, _, _, _, hevents, -, -, posted, fetched, rest, response, hreplies, hvouches⟩ := h
  obtain ⟨requests, hsends, hbegun, -⟩ := Client.submit_follows (Wire.ofReplies replies)
  have hlength : requests.length = 2 := by
    have hboth := congrArg List.length (hsends.events_eq.symm.trans hevents)
    simpa [Wire.ofReplies] using hboth
  have hcompleted := hbegun.completed (Nat.le_of_eq hlength.symm)
  refine ⟨response, congrArg Prod.fst (Client.submit_runOn_eq_ok_iff.mpr
    ⟨requests, posted, fetched, hcompleted, hsends.events_eq, ?_, hvouches⟩)⟩
  rw [hsends.replies_eq, hlength]
  change replies = posted :: fetched :: replies.drop 2
  rw [hreplies]
  rfl

/-- The status is that of a verdict exactly if the entries of the file were attested with this
verdict. -/
theorem run_eq_verdict_iff (harguments : Arguments.parse texts = .ok arguments)
    {verdict : Bool} :
    (run surroundings texts replies).1 = .ok (if verdict then 0 else 2) ↔
      ∃ name text entries, arguments.file = some name ∧ surroundings.fileText name = .ok text ∧
        Holds text entries ∧
        Attested surroundings.now (submittedNonce arguments.nonce).toJson entries replies
          (run surroundings texts replies).2.events verdict := by
  rcases run_cases surroundings harguments replies with
    ⟨entries, architecture, hasks, hrun⟩ | ⟨fault, hrun⟩
  · rw [hrun, exitStatus_eq_verdict_iff]
    constructor
    · rintro ⟨response, houtcome⟩
      obtain ⟨⟨name, hname, hentries⟩, -⟩ := hasks
      obtain ⟨text, htext, hholds⟩ := savedEntries_eq_ok_iff.mp hentries
      exact ⟨name, text, entries, hname, htext, hholds, attested_of_submit (Prod.ext houtcome rfl)⟩
    · rintro ⟨name, text, others, -, -, -, hattested⟩
      exact submit_of_attested hattested
  · rw [hrun]
    constructor
    · intro hstatus
      cases hstatus
    · rintro ⟨name, text, others, -, -, -, _, _, _, _, _, _, hevents, -⟩
      cases hevents

/-- The attestation fails exactly if the client with the settings of the environment does not come
to a verdict on the entries and the nonce, for a reason that is one of the attestation. -/
theorem run_eq_one_iff (harguments : Arguments.parse texts = .ok arguments) :
    (run surroundings texts replies).1 = .ok 1 ↔
      ∃ name text entries architecture failure,
        arguments.file = some name ∧ surroundings.fileText name = .ok text ∧
        Holds text entries ∧ arguments.architecture = some architecture ∧
        (((Client.create architecture (.ofEnvironment surroundings.environment)).submit
            surroundings.now (entries.map .device) (submittedNonce arguments.nonce)
            none).runWith replies).1 = .error failure ∧ failure.isOfAttestation = true := by
  constructor
  · intro hstatus
    rcases run_cases surroundings harguments replies with
      ⟨entries, architecture, hasks, hrun⟩ | ⟨fault, hrun⟩
    · rw [hrun] at hstatus
      obtain ⟨failure, houtcome, hfailure⟩ := exitStatus_eq_one_iff.mp hstatus
      rw [submit_eq] at houtcome
      obtain ⟨⟨name, hname, hentries⟩, harchitecture⟩ := hasks
      obtain ⟨text, htext, hholds⟩ := savedEntries_eq_ok_iff.mp hentries
      exact ⟨name, text, entries, architecture, failure, hname, htext, hholds, harchitecture,
        houtcome, hfailure⟩
    · rw [hrun] at hstatus
      cases hstatus
  · rintro ⟨name, text, entries, architecture, failure, hname, htext, hholds, harchitecture,
      houtcome, hfailure⟩
    have hentries := savedEntries_eq_ok_iff.mpr ⟨text, htext, hholds⟩
    rw [← submit_eq] at houtcome
    rw [run_of_asksFor harguments ⟨⟨name, hname, hentries⟩, harchitecture⟩]
    exact exitStatus_eq_one_iff.mpr ⟨failure, houtcome, hfailure⟩

/-- For a file whose text holds no entries nothing is sent. -/
theorem run_of_not_holds (harguments : Arguments.parse texts = .ok arguments) {name text : String}
    (hname : arguments.file = some name) (htext : surroundings.fileText name = .ok text)
    (h : ∀ entries, ¬ Holds text entries) :
    ∃ fault, run surroundings texts replies = (.error fault, Wire.ofReplies replies) := by
  refine run_of_not_asksFor harguments ?_ replies
  rintro entries architecture ⟨⟨other, hother, hentries⟩, -⟩
  obtain rfl := Option.some.inj (hname.symm.trans hother)
  obtain ⟨_, hsame, hholds⟩ := savedEntries_eq_ok_iff.mp hentries
  obtain rfl := Except.ok.inj (htext.symm.trans hsame)
  exact h entries hholds

/-- What the exit status of the program says, for a command line that asks for work. The status is 0
or 2 exactly if the entries of the file have been posted with the nonce and the two replies vouch
for the verdict, and it is 1 exactly if the client for the architecture has been given them and the
attestation has failed. A file that holds no entries ends the program without a status, before
anything is sent. -/
theorem run_exitStatus (surroundings : Surroundings) (texts : List String) (replies : List Reply)
    (arguments : Arguments) (harguments : Arguments.parse texts = .ok arguments) :
    (∀ verdict : Bool, (run surroundings texts replies).1 = .ok (if verdict then 0 else 2) ↔
      ∃ name text entries, arguments.file = some name ∧ surroundings.fileText name = .ok text ∧
        Holds text entries ∧
        Attested surroundings.now (submittedNonce arguments.nonce).toJson entries replies
          (run surroundings texts replies).2.events verdict) ∧
      ((run surroundings texts replies).1 = .ok 1 ↔
        ∃ name text entries architecture failure,
          arguments.file = some name ∧ surroundings.fileText name = .ok text ∧
          Holds text entries ∧ arguments.architecture = some architecture ∧
          (((Client.create architecture (.ofEnvironment surroundings.environment)).submit
              surroundings.now (entries.map .device) (submittedNonce arguments.nonce)
              none).runWith replies).1 = .error failure ∧ failure.isOfAttestation = true) ∧
      ∀ name text, arguments.file = some name → surroundings.fileText name = .ok text →
        (∀ entries, ¬ Holds text entries) →
          ∃ fault, run surroundings texts replies = (.error fault, Wire.ofReplies replies) := by
  refine ⟨fun verdict ↦ run_eq_verdict_iff harguments, run_eq_one_iff harguments, ?_⟩
  intro name text hname htext hnone
  exact run_of_not_holds harguments hname htext hnone

/-- Surroundings in which every file has the same text. -/
def surroundingsWith (text : String) : Surroundings := ⟨0, [], fun _ ↦ .ok text⟩

/-- Without a reply the attestation fails, and with an entry that lacks its keys there is no
attestation. -/
theorem run_exitStatus_unanswered :
    (run (surroundingsWith "[\x7b\"evidence\": \"ZQ==\", \"certificate\": \"Yw==\"\x7d]")
        ["saved.json", "00"] []).1 = .ok 1 ∧
      ∃ fault, run (surroundingsWith "[\x7b\x7d]") ["saved.json", "00"] [] =
        (.error fault, Wire.ofReplies []) := by
  have harguments : Arguments.parse ["saved.json", "00"] =
      .ok ⟨some "saved.json", some "00", some .hopper⟩ := by
    decide +kernel
  have hentries : savedEntries
      (surroundingsWith "[\x7b\"evidence\": \"ZQ==\", \"certificate\": \"Yw==\"\x7d]")
      "saved.json" =
        .ok [⟨.string "Yw==", .string "ZQ=="⟩] := by
    cbv
  have hnone : savedEntries (surroundingsWith "[\x7b\x7d]") "saved.json" =
      .error (.failure (.entry (.missing "certificate"))) := by
    cbv
  constructor
  · obtain ⟨text, htext, hholds⟩ := savedEntries_eq_ok_iff.mp hentries
    exact (run_exitStatus _ _ [] _ harguments).2.1.mpr
      ⟨_, text, _, _, _, rfl, htext, hholds, rfl, rfl, rfl⟩
  · refine (run_exitStatus _ _ [] _ harguments).2.2 "saved.json" "[\x7b\x7d]" rfl rfl ?_
    intro entries hholds
    cases hnone.symm.trans (savedEntries_eq_ok_iff.mpr ⟨_, rfl, hholds⟩)

end MeshAttest.CommandLine
