import MeshAttest.Proofs.Topology.Agreement
import MeshAttest.Proofs.Verifier.Submission
import MeshAttest.Round

/-!
# What a round establishes

The result of a round is worth as much as the checks behind it. `Round.runWith_eq_ok_iff` states all
of them at once: the evidence describes one mesh (`Round.Describes`), and of the four replies that
were taken each pair vouches for one of the verdicts. `Round.runWith_requests` states what is sent,
also by the rounds that fail: nothing before the reports agree, nothing for the switches before the
submission for the GPUs has returned, and all of `Round.plan` if there is a result.
-/

set_option autoImplicit false

namespace MeshAttest.Round

open Outcome Attempt

variable {round : Round} {now : Int} {gpus switches : List CollectedEvidence} {nonce : Bytes}
  {switchPdis gpuPdis : PdiSet} {wire after : Wire}

/-! ### The mesh -/

/-- What the reports of GPUs are checked against. -/
def deviceCheck (round : Round) : DeviceCheck := { reports := round.gpuCount }

/-- What the reports of switches are checked against, once the GPUs agree on a set. -/
def neighborCheck (round : Round) (switchPdis : PdiSet) : NeighborCheck :=
  { attachments := round.gpuCount, accepted := switchPdis }

/-- The evidence is that of one mesh: every GPU is connected to the same four switches, and each of
four reports comes from one of them and names the same GPUs, as many as there are reports of
GPUs. -/
structure Describes (round : Round) (gpus switches : List CollectedEvidence)
    (switchPdis gpuPdis : PdiSet) : Prop where
  gpuCount_pos : 1 ≤ round.gpuCount
  gpus_length : (gpus.length : Int) = round.gpuCount
  switches_length : switches.length = 4
  connected : ∀ gpu ∈ gpus, ∃ pdis,
    Report.neighborPdis gpu.report Report.switchPdisKind = .ok pdis ∧
      ∀ p, p ∈ switchPdis ↔ p ∈ pdis ∧ p ≠ Pdi.disabled
  switchPdis_size : switchPdis.size = 4
  disabled_not_mem : Pdi.disabled ∉ switchPdis
  attached : ∀ switch ∈ switches, ∃ pdis own,
    Report.attachedPdis switch.report Report.devicePdiKind Report.attachedPdisKind =
        .ok (pdis, own) ∧
      own ∈ switchPdis ∧ own ≠ Pdi.disabled ∧ ∀ p, p ∈ gpuPdis ↔ p ∈ pdis
  gpuPdis_size : (gpuPdis.size : Int) = round.gpuCount

/-- The evidence describes a mesh exactly if it is consistent for both checks, the second of which
accepts the switches that the first one finds. -/
theorem describes_iff :
    round.Describes gpus switches switchPdis gpuPdis ↔
      round.deviceCheck.Consistent (gpus.map (·.report)) switchPdis ∧
        (round.neighborCheck switchPdis).Consistent (switches.map (·.report)) gpuPdis := by
  constructor
  · intro h
    have hgpus : round.deviceCheck.Consistent (gpus.map (·.report)) switchPdis := by
      refine ⟨h.gpuCount_pos, ?_, List.forall_mem_map.mpr h.connected, ?_⟩
      · rw [List.length_map]
        exact h.gpus_length
      · rw [h.switchPdis_size]
        rfl
    refine ⟨hgpus, ?_, ?_, ?_, h.gpuPdis_size, ?_⟩
    · show 1 ≤ switchReportCount
      decide
    · rw [List.length_map, h.switches_length]
      rfl
    · refine List.forall_mem_map.mpr fun switch hswitch ↦ ?_
      obtain ⟨pdis, own, hread, hown, -, hpdis⟩ := h.attached switch hswitch
      exact ⟨pdis, own, hread, hown, hpdis⟩
    · intro hdistinct
      cases hdistinct
  · rintro ⟨hgpus, hswitches⟩
    have hdisabled := hgpus.disabled_not_mem
    have hgpuCount := hgpus.length_eq
    have hswitchCount := hswitches.length_eq
    rw [List.length_map] at hgpuCount hswitchCount
    refine ⟨hgpus.reports_pos, hgpuCount, Int.ofNat_inj.mp hswitchCount, ?_,
      Int.ofNat_inj.mp hgpus.size_eq, hdisabled, ?_, hswitches.size_eq⟩
    · intro gpu hgpu
      exact hgpus.named gpu.report (List.mem_map_of_mem hgpu)
    · intro switch hswitch
      obtain ⟨pdis, own, hread, hown, hpdis⟩ :=
        hswitches.attached switch.report (List.mem_map_of_mem hswitch)
      refine ⟨pdis, own, hread, hown, ?_, hpdis⟩
      rintro rfl
      exact hdisabled hown

/-- The reports pass the checks exactly when they are those of one mesh. -/
theorem gate_eq_ok_iff :
    round.gate gpus switches = .ok (switchPdis, gpuPdis) ↔
      round.Describes gpus switches switchPdis gpuPdis := by
  unfold gate
  simp only [bind_eq_ok_iff, pure_eq_ok_iff, DeviceCheck.run_eq_ok_iff,
    NeighborCheck.run_eq_ok_iff, Prod.mk.injEq, describes_iff]
  constructor
  · rintro ⟨_, hgpus, _, hswitches, rfl, rfl⟩
    exact ⟨hgpus, hswitches⟩
  · rintro ⟨hgpus, hswitches⟩
    exact ⟨_, hgpus, _, hswitches, rfl, rfl⟩

/-- If the GPU reports fail their check, this is the fault of the gate, whatever the switch reports
are. -/
theorem gate_of_device_error {fault : TopologyFault}
    (h : round.deviceCheck.run (gpus.map (·.report)) = .error fault) :
    round.gate gpus switches = .error fault := by
  change (round.deviceCheck.run (gpus.map (·.report)) >>= _) = _
  rw [h]
  rfl

/-- If only the switch reports fail their check, the fault is theirs. -/
theorem gate_of_neighbor_error {fault : TopologyFault}
    (h : round.deviceCheck.run (gpus.map (·.report)) = .ok switchPdis)
    (hneighbors : (round.neighborCheck switchPdis).run (switches.map (·.report)) = .error fault) :
    round.gate gpus switches = .error fault := by
  change (round.deviceCheck.run (gpus.map (·.report)) >>= fun switchPdis ↦
    (round.neighborCheck switchPdis).run (switches.map (·.report)) >>= _) = _
  rw [h]
  change ((round.neighborCheck switchPdis).run (switches.map (·.report)) >>= _) = _
  rw [hneighbors]
  rfl

/-! ### The requests -/

/-- The requests for the GPUs: their evidence, and the key set of the verifier. -/
def gpuPlan (round : Round) (gpus : List CollectedEvidence) (nonce : Bytes) : Plan :=
  round.gpuClient.plan round.gpuClient.options (gpus.map (·.deviceItem)) (.octets nonce)

/-- The requests for the switches: their evidence, and the key set of the verifier. -/
def switchPlan (round : Round) (switches : List CollectedEvidence) (nonce : Bytes) : Plan :=
  round.switchClient.plan round.switchClient.options (switches.map (·.switchItem)) (.octets nonce)

/-- The requests of a round. Those for the switches come last. -/
def plan (round : Round) (gpus switches : List CollectedEvidence) (nonce : Bytes) : Plan :=
  round.gpuPlan gpus nonce ++ round.switchPlan switches nonce

/-- The submission for the GPUs keeps to the first half of the plan. -/
theorem submit_gpus_follows (round : Round) (now : Int) (gpus : List CollectedEvidence)
    (nonce : Bytes) :
    (round.gpuClient.submit now (gpus.map (·.deviceItem)) (.octets nonce) none).Follows
      (round.gpuPlan gpus nonce) :=
  Client.submit_follows

/-- The submission for the switches keeps to the second half. -/
theorem submit_switches_follows (round : Round) (now : Int) (switches : List CollectedEvidence)
    (nonce : Bytes) :
    (round.switchClient.submit now (switches.map (·.switchItem)) (.octets nonce) none).Follows
      (round.switchPlan switches nonce) :=
  Client.submit_follows

/-- A round keeps to its plan over any wire, and completes it if it has a result. -/
theorem run_follows (round : Round) (now : Int) (gpus switches : List CollectedEvidence)
    (nonce : Bytes) :
    (round.run now gpus switches nonce).Follows (round.plan gpus switches nonce) := by
  refine Follows.ofExcept_bind fun sets _ ↦ ?_
  refine (submit_gpus_follows round now gpus nonce).bind fun gpuResult _ _ _ ↦ ?_
  refine (submit_switches_follows round now switches nonce).bind fun switchResult _ _ _ ↦ ?_
  exact follows_pure _

/-- Behind a gate that fails nothing is sent. -/
theorem run_runOn_of_gate_error {fault : TopologyFault}
    (h : round.gate gpus switches = .error fault) :
    (round.run now gpus switches nonce).runOn wire = (.error (.topology fault), wire) := by
  refine runOn_bind_of_error ?_
  rw [runOn_ofExcept, h]
  rfl

/-- If the submission for the GPUs fails, so does the round, and nothing is sent for the
switches. -/
theorem run_runOn_of_submit_error {failure : Failure}
    (hgate : round.gate gpus switches = .ok (switchPdis, gpuPdis))
    (hsubmit : (round.gpuClient.submit now (gpus.map (·.deviceItem)) (.octets nonce) none).runOn
      wire = (.error failure, after)) :
    (round.run now gpus switches nonce).runOn wire = (.error failure, after) := by
  have hsets : runOn (ofExcept ((round.gate gpus switches).mapError .topology)) wire =
      (.ok (switchPdis, gpuPdis), wire) := by
    rw [runOn_ofExcept, hgate]
    rfl
  exact (runOn_bind_of_ok hsets).trans (runOn_bind_of_error hsubmit)

/-- The requests of a round are the first ones that are planned. There are none unless the checks on
the spot pass, only those for the GPUs if their submission fails, and all of them if there is a
result, whatever the verdicts are. -/
theorem runWith_requests (round : Round) (now : Int) (gpus switches : List CollectedEvidence)
    (nonce : Bytes) (replies : List Reply) :
    ∃ (outcome : Except Failure RoundResult) (requests : List Request),
      (round.run now gpus switches nonce).runWith replies =
        (outcome, ⟨replies.drop requests.length, requests.map .request⟩) ∧
      (round.plan gpus switches nonce).Begun requests ∧
      (∀ fault, round.deviceCheck.run (gpus.map (·.report)) = .error fault →
        requests = [] ∧ outcome = .error (.topology fault)) ∧
      (∀ switchPdis fault, round.deviceCheck.run (gpus.map (·.report)) = .ok switchPdis →
        (round.neighborCheck switchPdis).run (switches.map (·.report)) = .error fault →
        requests = [] ∧ outcome = .error (.topology fault)) ∧
      (∀ sets failure after, round.gate gpus switches = .ok sets →
        (round.gpuClient.submit now (gpus.map (·.deviceItem)) (.octets nonce) none).runWith
          replies = (.error failure, after) →
        (round.gpuPlan gpus nonce).Begun requests ∧ outcome = .error failure) ∧
      (∀ result, outcome = .ok result → (round.plan gpus switches nonce).Completed requests) := by
  simp only [runWith_eq_runOn]
  obtain ⟨requests, hsends, hbegun, hcompleted⟩ :=
    run_follows round now gpus switches nonce (Wire.ofReplies replies)
  rcases hrun : (round.run now gpus switches nonce).runOn (Wire.ofReplies replies) with
    ⟨outcome, after⟩
  rw [hrun] at hsends hcompleted
  -- The fault of either check is the fault of the gate, behind which nothing is sent.
  have hgate : ∀ fault, round.gate gpus switches = .error fault →
      requests = [] ∧ outcome = .error (.topology fault) := by
    intro fault hfault
    obtain ⟨rfl, rfl⟩ := Prod.mk.inj (hrun.symm.trans (run_runOn_of_gate_error hfault))
    exact ⟨hsends.unique (Wire.sends_nil _), rfl⟩
  refine ⟨outcome, requests, ?_, hbegun, ?_, ?_, ?_, hcompleted⟩
  · exact congrArg (Prod.mk outcome) (Wire.ofReplies_sends_iff.mp hsends)
  · intro fault hfault
    exact hgate fault (gate_of_device_error hfault)
  · intro switchPdis fault hswitchPdis hfault
    exact hgate fault (gate_of_neighbor_error hswitchPdis hfault)
  · intro sets failure stopped hsets hsubmit
    obtain ⟨rfl, rfl⟩ := Prod.mk.inj (hrun.symm.trans (run_runOn_of_submit_error hsets hsubmit))
    obtain ⟨others, hothers, hothersBegun, -⟩ :=
      submit_gpus_follows round now gpus nonce (Wire.ofReplies replies)
    rw [hsubmit] at hothers
    rw [hsends.unique hothers]
    exact ⟨hothersBegun, rfl⟩

/-! ### The result -/

/-- A round has a result exactly if the evidence describes a mesh and both submissions return, that
for the GPUs first. The round has passed if both verdicts say so. -/
theorem run_runOn_eq_ok_iff {result : RoundResult} :
    (round.run now gpus switches nonce).runOn wire = (.ok result, after) ↔
      result.passed = (result.gpuPassed && result.switchPassed) ∧
      round.Describes gpus switches result.switchPdis result.gpuPdis ∧
      ∃ middle,
        (round.gpuClient.submit now (gpus.map (·.deviceItem)) (.octets nonce) none).runOn wire =
          (.ok (result.gpuPassed, result.gpuResponse), middle) ∧
        (round.switchClient.submit now (switches.map (·.switchItem)) (.octets nonce) none).runOn
          middle = (.ok (result.switchPassed, result.switchResponse), after) := by
  unfold run
  simp only [runOn_bind_eq_ok_iff, runOn_ofExcept, runOn_pure, Prod.mk.injEq, mapError_eq_ok_iff,
    Except.ok.injEq]
  constructor
  · rintro ⟨⟨switchPdis, gpuPdis⟩, _, ⟨hgate, rfl⟩, ⟨gpuPassed, gpuResponse⟩, middle, hgpus,
      ⟨switchPassed, switchResponse⟩, _, hswitches, rfl, rfl⟩
    exact ⟨rfl, gate_eq_ok_iff.mp hgate, middle, hgpus, hswitches⟩
  · rintro ⟨hpassed, hdescribes, middle, hgpus, hswitches⟩
    refine ⟨_, _, ⟨gate_eq_ok_iff.mpr hdescribes, rfl⟩, _, middle, hgpus, _, after, hswitches, ?_,
      rfl⟩
    rw [← hpassed]

/-- A round has a result exactly when the evidence is that of one mesh and the replies vouch for
both verdicts, and then the result says just that. -/
theorem runWith_eq_ok_iff (round : Round) (now : Int) (gpus switches : List CollectedEvidence)
    (nonce : Bytes) (replies : List Reply) (result : RoundResult) (after : Wire) :
    (round.run now gpus switches nonce).runWith replies = (.ok result, after) ↔
      round.Describes gpus switches result.switchPdis result.gpuPdis ∧
      (∃ gpuPosted gpuFetched switchPosted switchFetched,
        replies = gpuPosted :: gpuFetched :: switchPosted :: switchFetched :: after.replies ∧
        Client.Vouches now gpuPosted gpuFetched result.gpuPassed result.gpuResponse ∧
        Client.Vouches now switchPosted switchFetched result.switchPassed result.switchResponse) ∧
      (∃ requests, (round.plan gpus switches nonce).Completed requests ∧
        after.events = requests.map .request) ∧
      result.passed = (result.gpuPassed && result.switchPassed) := by
  rw [runWith_eq_runOn, run_runOn_eq_ok_iff]
  simp only [Client.submit_runOn_eq_ok_iff]
  constructor
  · rintro ⟨hpassed, hdescribes, middle,
      ⟨gpuRequests, gpuPosted, gpuFetched, hgpuPlan, hgpuEvents, hgpuReplies, hgpus⟩,
      switchRequests, switchPosted, switchFetched, hswitchPlan, hswitchEvents, hswitchReplies,
      hswitches⟩
    refine ⟨hdescribes, ⟨gpuPosted, gpuFetched, switchPosted, switchFetched, ?_, hgpus, hswitches⟩,
      ⟨gpuRequests ++ switchRequests, hgpuPlan.append hswitchPlan, ?_⟩, hpassed⟩
    · rw [← hswitchReplies]
      exact hgpuReplies
    · rw [hswitchEvents, hgpuEvents, List.map_append]
      rfl
  · rintro ⟨hdescribes, ⟨gpuPosted, gpuFetched, switchPosted, switchFetched, hreplies, hgpus,
      hswitches⟩, ⟨_, hplan, hevents⟩, hpassed⟩
    obtain ⟨gpuRequests, switchRequests, rfl, hgpuPlan, hswitchPlan⟩ :=
      Plan.completed_append_iff.mp hplan
    rw [List.map_append] at hevents
    exact ⟨hpassed, hdescribes,
      ⟨switchPosted :: switchFetched :: after.replies, gpuRequests.map .request⟩,
      ⟨gpuRequests, gpuPosted, gpuFetched, hgpuPlan, rfl, hreplies, hgpus⟩,
      switchRequests, switchPosted, switchFetched, hswitchPlan, hevents, rfl, hswitches⟩

end MeshAttest.Round
