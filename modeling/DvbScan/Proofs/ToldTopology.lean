import DvbScan.Proofs.CollectedTopology
import DvbScan.Proofs.SweepNotes
import DvbScan.Proofs.SweepPlans

/-!
# A topology is made of what was told

A sweep does not touch its topology but by what collects findings, notes the channel that is heard and settles
transports. So in every state of a sweep its topology is what a run of these has made of the empty one, with exactly the
findings that the sections of its channels have told, in their order. What is shown of all such runs holds of sweeps.
-/

namespace DvbScan

namespace TopologyAct

theorem findings_find (found : List Finding) : findings (found.map .find) = found := by
  unfold findings
  rw [List.filterMap_map]
  exact List.filterMap_some

end TopologyAct

theorem Topology.applyAll_eq_actAll (topology : Topology) (found : List Finding) :
    topology.applyAll found = topology.actAll (found.map .find) := by
  unfold actAll
  rw [List.foldl_map]
  rfl

def SweepNote.findings (notes : List SweepNote) : List Finding :=
  notes.filterMap fun
    | told finding => some finding
    | locked _ | left _ _ => none

@[simp]
theorem SweepNote.findings_append (first second : List SweepNote) :
    findings (first ++ second) = findings first ++ findings second :=
  List.filterMap_append

@[simp]
theorem SweepNote.findings_told (found : List Finding) : findings (found.map told) = found := by
  unfold findings
  rw [List.filterMap_map]
  exact List.filterMap_some

namespace Sweep

open SweepNote (ofOutcome)
open TopologyAct (findings)

variable {ι : Type} {sweep before after : Sweep ι} {notes more : List SweepNote}

/-- The topology of a sweep is what a run has made of the empty one, and the findings of the run are those noted. -/
def Collects (notes : List SweepNote) (sweep : Sweep ι) : Prop :=
  ∃ acts, sweep.topology = Topology.empty.actAll acts ∧ findings acts = SweepNote.findings notes

theorem collects_new (platform : Platform) (candidates : ι) (timeouts : Timeouts) :
    (new platform candidates timeouts).Collects [] :=
  ⟨[], rfl, rfl⟩

theorem Collects.onward (collects : before.Collects notes) (acts : List TopologyAct)
    (told : findings acts = SweepNote.findings more) (made : after.topology = before.topology.actAll acts) :
    after.Collects (notes ++ more) := by
  obtain ⟨earlier, topology, same⟩ := collects
  refine ⟨earlier ++ acts, ?_, ?_⟩
  · rw [made, topology]
    exact List.foldl_append.symm
  · rw [SweepNote.findings_append, ← same, ← told]
    exact List.filterMap_append

theorem Collects.quietly (collects : before.Collects notes) (acts : List TopologyAct) (told : findings acts = [])
    (made : after.topology = before.topology.actAll acts) : after.Collects notes := by
  have onward : after.Collects (notes ++ []) := collects.onward acts told made
  rwa [List.append_nil] at onward

theorem topology_settle (sweep : Sweep ι) (target : Target) (status : TransportStatus) :
    ∃ acts, findings acts = [] ∧ (sweep.settle target status).topology = sweep.topology.actAll acts := by
  let equivalent : TopologyAct := .settle status fun _ transport => transport.waitsOn target.tuning.equivalence
  unfold settle
  cases target.transport with
  | none => exact ⟨[equivalent], rfl, rfl⟩
  | some key =>
    exact ⟨[equivalent, .settle status fun other transport => other == key && transport.status == .pending], rfl, rfl⟩

theorem Collects.settle (collects : sweep.Collects notes) (target : Target) (status : TransportStatus) :
    (sweep.settle target status).Collects notes := by
  obtain ⟨acts, told, made⟩ := sweep.topology_settle target status
  exact collects.quietly acts told made

theorem Collects.leaveChannel (collects : sweep.Collects notes) (target : Target) (success : Bool) :
    (sweep.leaveChannel target success).Collects (notes ++ [.left target success]) := by
  have left : Collects (notes ++ [.left target success])
      { sweep with
        channel := sweep.channel.finish.1
        topology := sweep.topology.endChannel
        calls := sweep.calls ++ sweep.channel.finish.2.1
        phase := .idle
        channelsScanned := sweep.channelsScanned + 1
        anyComplete := sweep.anyComplete || success } := collects.onward [.endChannel] rfl rfl
  exact left.settle target (if success then .scanned else .failed)

theorem Collects.hear (collects : sweep.Collects notes) (target : Target) (outcome : ChannelOutcome) :
    (sweep.hear target outcome).sweep.Collects (notes ++ ofOutcome target outcome) := by
  cases outcome with
  | running => exact (List.append_nil notes).symm ▸ collects
  | finished success => exact collects.leaveChannel target success

variable [CandidateSource ι]

theorem Collects.prepare (collects : sweep.Collects notes) (receiver : Receiver) (act : SweepAct) :
    (sweep.prepare receiver act).sweep.Collects (notes ++ sweep.notes receiver act) := by
  have noted := sweep.noted receiver act
  generalize sweep.prepare receiver act = progress, sweep.notes receiver act = more at noted ⊢
  cases noted with
  | ignored | started => exact collects.onward [] rfl rfl
  | @locked act attempt target given phase =>
    rw [List.append_cons]
    refine Collects.hear ?_ target _
    exact collects.onward [.beginChannel _] rfl rfl
  | unlocked given phase =>
    refine Collects.settle ?_ _ _
    exact collects.onward [] rfl rfl
  | @delivered act target given filter delivery phase =>
    rw [← List.append_assoc]
    refine Collects.hear ?_ target _
    refine collects.onward ((sweep.channel.handle filter delivery).2.2.map .find) ?_ ?_
    · rw [SweepNote.findings_told, TopologyAct.findings_find]
    · exact Topology.applyAll_eq_actAll ..
  | left given phase => exact collects.leaveChannel _ _
  | cancelled => exact collects.onward [.endChannel] rfl rfl

theorem Collects.advance (collects : sweep.Collects notes) (receiver : Receiver) :
    (sweep.advance receiver).1.Collects notes := by
  refine advance_of_moves (Collects notes) collects receiver ?_ ?_ ?_ ?_
  · intro sweep keys candidates collects
    refine collects.quietly [.settle .failed fun key _ => keys.contains key] rfl ?_
    exact sweep.topology_giveUp keys
  · exact fun _ _ collects => collects
  · exact fun _ target collects => collects.settle target .failed
  · exact fun _ _ _ collects => collects

/-- Whatever a sweep has in its topology, sections of its channels have told. -/
theorem collects_of_run (platform : Platform) (candidates : ι) (timeouts : Timeouts) (receiver : Receiver)
    (acts : List SweepAct) :
    ((new platform candidates timeouts).actAll receiver acts).Collects
      ((new platform candidates timeouts).notesOf receiver acts) :=
  actAll_of_noted (fun sweep notes => sweep.Collects notes) (collects_new platform candidates timeouts) receiver
    (fun _ _ act collects => collects.prepare receiver act) (fun _ _ collects => collects.advance receiver) acts

end Sweep

end DvbScan
