import CoderDesktop.Semantics.Run
import CoderDesktop.Vpn.UpdatesHandler

/-!
# The map of agents against the update stream

The map is keyed by names, and the workspace's name is looked up in the update
that upserts or deletes the agent. `Tracking` puts next to the map the agents the
stream says are alive, named by their ids, with the entry their last upsert made.
-/

namespace CoderDesktop.Vpn

open Semantics

/-- A DISCONNECTED signal and the hostname last emitted as CONNECTED for the agent. -/
structure Farewell where
  hostname : String
  connected : Option String
deriving DecidableEq, Repr

/-- The handler's map, beside the agents that are live. -/
structure Tracking where
  agents : AList fun _ : String => TrackedAgent
  /-- The live agents, each with the key and the entry of its last upsert. -/
  live : AgentRef → Option (String × TrackedAgent)
  /-- The hostname last emitted as CONNECTED for an agent. -/
  connected : AgentRef → Option String
  /-- The names of the workspace and the agent that were looked up at its last upsert. -/
  names : AgentRef → Option (String × String)
  farewells : List Farewell

namespace Tracking

variable (suffix : String)

/-- No agent was told of. -/
def new : Tracking := ⟨∅, fun _ => none, fun _ => none, fun _ => none, []⟩

/-- One agent of an update. -/
def step (tracking : Tracking) (change : AgentChange) : Tracking :=
  match change.kind with
  | .upserted =>
      { tracking with
        agents := change.store suffix tracking.agents
        live := Function.update tracking.live change.ref
          (some (change.key, change.tracked suffix))
        connected := Function.update tracking.connected change.ref
          (some (change.signal suffix).hostname)
        names := Function.update tracking.names change.ref
          (some (change.wsName, change.agent.name)) }
  | .deleted =>
      { tracking with
        agents := change.store suffix tracking.agents
        live := Function.update tracking.live change.ref none
        farewells := tracking.farewells ++
          [⟨(change.signal suffix).hostname, tracking.connected change.ref⟩] }

/-- A change is always handled. -/
def next (tracking : Tracking) (change : AgentChange) : Option Tracking :=
  some (tracking.step suffix change)

/-- The map tracks the live agents. -/
structure Matches (tracking : Tracking) : Prop where
  /-- Every live agent has the entry of its last upsert. -/
  entry : ∀ ref key tracked, tracking.live ref = some (key, tracked) →
    tracking.agents.lookup key = some tracked
  /-- Every entry is some live agent's. -/
  owner : ∀ key ∈ tracking.agents, ∃ ref tracked, tracking.live ref = some (key, tracked)
  /-- Different agents have different entries. -/
  distinct : ∀ ref other key tracked tracked', tracking.live ref = some (key, tracked) →
    tracking.live other = some (key, tracked') → ref = other
  /-- An agent is reported disconnected under the name it was last connected under. -/
  hostnames : ∀ farewell ∈ tracking.farewells, ∀ hostname ∈ farewell.connected,
    farewell.hostname = hostname

/-- The names looked up for an agent lead to its own entry: its key is in use
exactly if the agent is alive, and then by the agent. -/
def KeyAgrees (tracking : Tracking) (change : AgentChange) : Prop :=
  (tracking.live change.ref).map Prod.fst =
    if change.key ∈ tracking.agents then some change.key else none

/-- And the names looked up for a deleted agent make the host name that those of its last
upsert made. -/
def LookupsAgree (tracking : Tracking) (change : AgentChange) : Prop :=
  tracking.KeyAgrees change ∧ (change.kind = .deleted →
    ∀ names ∈ tracking.names change.ref,
      formatHostname change.agent.name change.wsName suffix =
        formatHostname names.2 names.1 suffix)

instance (tracking : Tracking) (change : AgentChange) :
    Decidable (tracking.LookupsAgree suffix change) := by
  unfold LookupsAgree KeyAgrees
  infer_instance

variable {suffix} {tracking : Tracking} {change : AgentChange}

/-- Nothing is tracked at first. -/
theorem matches_new : Matches new where
  entry _ _ _ found := by cases found
  owner _ member := absurd member (AList.notMem_empty _)
  distinct _ _ _ _ _ found := by cases found
  hostnames _ member := absurd member List.not_mem_nil

/-! ### Fields of a step -/

/-- An agent was last connected under the names of its last upsert. -/
def Named (suffix : String) (tracking : Tracking) : Prop :=
  ∀ ref, tracking.connected ref =
    (tracking.names ref).map fun names => formatHostname names.2 names.1 suffix

/-- A change keeps the names with the emissions. -/
theorem Named.step (named : Named suffix tracking) (change : AgentChange) :
    Named suffix (tracking.step suffix change) := by
  intro ref
  cases kind : change.kind with
  | deleted =>
      simp only [Tracking.step, kind]
      exact named ref
  | upserted =>
      simp only [Tracking.step, kind]
      by_cases same : ref = change.ref
      · subst same
        rw [Function.update_self, Function.update_self]
        rfl
      · rw [Function.update_of_ne same, Function.update_of_ne same]
        exact named ref

/-- So a deleted agent has the host name it was last connected under. -/
theorem lookupsAgree_iff (named : Named suffix tracking) :
    tracking.LookupsAgree suffix change ↔
      tracking.KeyAgrees change ∧ (change.kind = .deleted →
        ∀ hostname ∈ tracking.connected change.ref, change.hostname suffix = hostname) := by
  unfold LookupsAgree
  rw [named change.ref]
  cases tracking.names change.ref <;> simp [AgentChange.hostname]

/-- An upsert writes the entry of its key. -/
theorem agents_upsert (kind : change.kind = .upserted) :
    (tracking.step suffix change).agents =
      tracking.agents.insert change.key (change.tracked suffix) := by
  simp only [step, kind, AgentChange.store]

/-- A deletion erases the entry of its key. -/
theorem agents_delete (kind : change.kind = .deleted) :
    (tracking.step suffix change).agents = tracking.agents.erase change.key := by
  simp only [step, kind, AgentChange.store]

/-- An upserted agent is live with its entry. -/
theorem live_upsert (kind : change.kind = .upserted) :
    (tracking.step suffix change).live change.ref = some (change.key, change.tracked suffix) := by
  simp only [step, kind, Function.update_self]

/-- A deleted agent is not live. -/
theorem live_delete (kind : change.kind = .deleted) :
    (tracking.step suffix change).live change.ref = none := by
  simp only [step, kind, Function.update_self]

/-- A step of one agent leaves the others alone. -/
theorem live_of_ne {ref : AgentRef} (other : ref ≠ change.ref) :
    (tracking.step suffix change).live ref = tracking.live ref := by
  cases kind : change.kind <;> simp only [step, kind, Function.update_of_ne other]

/-- What is live after a deletion is another agent. -/
theorem live_of_delete (kind : change.kind = .deleted) {ref : AgentRef}
    {entry : String × TrackedAgent} (found : (tracking.step suffix change).live ref = some entry) :
    ref ≠ change.ref ∧ tracking.live ref = some entry := by
  have other : ref ≠ change.ref := by
    rintro rfl
    rw [live_delete kind] at found
    cases found
  exact ⟨other, live_of_ne other ▸ found⟩

/-! ### Steps that agree -/

/-- What `KeyAgrees` says of an agent that is alive, and of one that is not. -/
theorem keyAgrees_iff : tracking.KeyAgrees change ↔
    (∀ key tracked, tracking.live change.ref = some (key, tracked) →
      key = change.key ∧ change.key ∈ tracking.agents) ∧
      (tracking.live change.ref = none → change.key ∉ tracking.agents) := by
  unfold KeyAgrees
  cases found : tracking.live change.ref with
  | none => by_cases used : change.key ∈ tracking.agents <;> simp [used]
  | some entry =>
      obtain ⟨key, tracked⟩ := entry
      by_cases used : change.key ∈ tracking.agents <;> simp [used]

namespace Matches

/-- A live agent's key is in the map. -/
theorem mem_of_live (sound : Matches tracking) {ref : AgentRef} {key : String}
    {tracked : TrackedAgent} (found : tracking.live ref = some (key, tracked)) :
    key ∈ tracking.agents :=
  AList.lookup_isSome.mp (by rw [sound.entry _ _ _ found]; rfl)

/-- Under `KeyAgrees` the key of the change belongs to nobody else. -/
theorem ref_of_key (sound : Matches tracking) (agrees : tracking.KeyAgrees change)
    {ref : AgentRef} {tracked : TrackedAgent}
    (found : tracking.live ref = some (change.key, tracked)) : ref = change.ref := by
  have used := sound.mem_of_live found
  cases mine : tracking.live change.ref with
  | none => exact absurd used ((keyAgrees_iff.mp agrees).2 mine)
  | some entry =>
      obtain ⟨key, own⟩ := entry
      obtain ⟨rfl, -⟩ := (keyAgrees_iff.mp agrees).1 key own mine
      exact sound.distinct _ _ _ _ _ found mine

/-- Another agent has another key. -/
theorem key_ne (sound : Matches tracking) (agrees : tracking.KeyAgrees change)
    {ref : AgentRef} (other : ref ≠ change.ref) {key : String} {tracked : TrackedAgent}
    (found : tracking.live ref = some (key, tracked)) : key ≠ change.key := by
  rintro rfl
  exact other (sound.ref_of_key agrees found)

/-- An upsert with a key of its own keeps the map right. -/
theorem upsert (sound : Matches tracking) (kind : change.kind = .upserted)
    (agrees : tracking.KeyAgrees change) : Matches (tracking.step suffix change) := by
  refine ⟨?_, ?_, ?_, ?_⟩
  · intro ref key tracked found
    rw [agents_upsert kind]
    by_cases same : ref = change.ref
    · subst same
      rw [live_upsert kind] at found
      obtain ⟨rfl, rfl⟩ := Prod.mk.inj (Option.some.inj found)
      exact AList.lookup_insert _
    · rw [live_of_ne same] at found
      rw [AList.lookup_insert_ne (sound.key_ne agrees same found)]
      exact sound.entry _ _ _ found
  · intro key member
    rw [agents_upsert kind] at member
    by_cases mine : key = change.key
    · exact ⟨change.ref, change.tracked suffix, by rw [live_upsert kind, mine]⟩
    · obtain ⟨ref, tracked, found⟩ :=
        sound.owner key (((AList.mem_insert _).mp member).resolve_left mine)
      refine ⟨ref, tracked, ?_⟩
      have other : ref ≠ change.ref := by
        rintro rfl
        exact mine ((keyAgrees_iff.mp agrees).1 key tracked found).1
      rw [live_of_ne other, found]
  · intro ref other key tracked tracked' found found'
    by_cases same : ref = change.ref <;> by_cases same' : other = change.ref
    · rw [same, same']
    · subst same
      rw [live_upsert kind] at found
      rw [live_of_ne same'] at found'
      exact absurd (Prod.mk.inj (Option.some.inj found)).1.symm (sound.key_ne agrees same' found')
    · subst same'
      rw [live_upsert kind] at found'
      rw [live_of_ne same] at found
      exact absurd (Prod.mk.inj (Option.some.inj found')).1.symm (sound.key_ne agrees same found)
    · rw [live_of_ne same] at found
      rw [live_of_ne same'] at found'
      exact sound.distinct _ _ _ _ _ found found'
  · have kept : (tracking.step suffix change).farewells = tracking.farewells := by
      simp only [step, kind]
    rw [kept]
    exact sound.hostnames

/-- A deletion with the names of the upsert keeps the map right. -/
theorem delete (sound : Matches tracking) (named : Named suffix tracking)
    (kind : change.kind = .deleted) (lookups : tracking.LookupsAgree suffix change) :
    Matches (tracking.step suffix change) := by
  have agrees := (lookupsAgree_iff named).mp lookups
  refine ⟨?_, ?_, ?_, ?_⟩
  · intro ref key tracked found
    obtain ⟨other, found⟩ := live_of_delete kind found
    rw [agents_delete kind, AList.lookup_erase_ne (sound.key_ne agrees.1 other found)]
    exact sound.entry _ _ _ found
  · intro key member
    rw [agents_delete kind] at member
    obtain ⟨different, used⟩ := AList.mem_erase.mp member
    obtain ⟨ref, tracked, found⟩ := sound.owner key used
    refine ⟨ref, tracked, ?_⟩
    have other : ref ≠ change.ref := by
      rintro rfl
      exact different ((keyAgrees_iff.mp agrees.1).1 key tracked found).1
    rw [live_of_ne other, found]
  · intro ref other key tracked tracked' found found'
    exact sound.distinct _ _ _ _ _ (live_of_delete kind found).2 (live_of_delete kind found').2
  · intro farewell member hostname connected
    simp only [step, kind] at member
    rcases List.mem_append.mp member with old | new
    · exact sound.hostnames farewell old hostname connected
    · obtain rfl := List.mem_singleton.mp new
      exact agrees.2 kind hostname connected

/-! ### Steps that keep the map matching agree -/

/-- Only an upsert with a key of its own keeps the map right. -/
theorem keyAgrees_of_upsert (sound : Matches tracking) (kind : change.kind = .upserted)
    (after : Matches (tracking.step suffix change)) : tracking.KeyAgrees change := by
  refine keyAgrees_iff.mpr ⟨fun key tracked found => ?_, fun dead used => ?_⟩
  · -- an agent that moved to another key would leave its old entry without an owner
    have used := sound.mem_of_live found
    have same : key = change.key := by
      obtain ⟨ref, other, found'⟩ := after.owner key
        (by rw [agents_upsert kind]; exact (AList.mem_insert _).mpr (.inr used))
      by_cases own : ref = change.ref
      · subst own
        rw [live_upsert kind] at found'
        exact (Prod.mk.inj (Option.some.inj found')).1.symm
      · rw [live_of_ne own] at found'
        exact absurd (sound.distinct _ _ _ _ _ found' found) own
    exact ⟨same, same ▸ used⟩
  · -- a new agent under a used key would share the entry
    obtain ⟨ref, tracked, found⟩ := sound.owner _ used
    have other : ref ≠ change.ref := by
      rintro rfl
      rw [dead] at found
      cases found
    exact other (after.distinct ref change.ref change.key _ _ (by rw [live_of_ne other, found])
      (live_upsert kind))

/-- Only a deletion with the names of the upsert keeps the map right. -/
theorem lookupsAgree_of_delete (sound : Matches tracking) (named : Named suffix tracking)
    (kind : change.kind = .deleted) (after : Matches (tracking.step suffix change)) :
    tracking.LookupsAgree suffix change := by
  refine (lookupsAgree_iff named).mpr
    ⟨keyAgrees_iff.mpr ⟨fun key tracked found => ?_, fun dead used => ?_⟩, ?_⟩
  · -- a deleted agent whose own entry stays leaves it without an owner
    have used := sound.mem_of_live found
    have same : key = change.key := by
      by_contra different
      obtain ⟨ref, other, found'⟩ := after.owner key
        (by rw [agents_delete kind]; exact AList.mem_erase.mpr ⟨different, used⟩)
      obtain ⟨own, found'⟩ := live_of_delete kind found'
      exact own (sound.distinct _ _ _ _ _ found' found)
    exact ⟨same, same ▸ used⟩
  · -- deleting an unknown agent must not hit another one's entry
    obtain ⟨ref, tracked, found⟩ := sound.owner _ used
    have other : ref ≠ change.ref := by
      rintro rfl
      rw [dead] at found
      cases found
    have entry := after.entry ref change.key tracked (by rw [live_of_ne other, found])
    rw [agents_delete kind, AList.lookup_erase] at entry
    cases entry
  · intro _ hostname connected
    refine after.hostnames ⟨change.hostname suffix, tracking.connected change.ref⟩ ?_ hostname
      connected
    simp only [step, kind]
    exact List.mem_append_right _ (List.mem_singleton_self _)

end Matches

/-- What decides, at each agent of an update, whether the map keeps matching. -/
theorem matches_step_iff (suffix : String) (tracking : Tracking) (change : AgentChange)
    (named : Named suffix tracking) (sound : Matches tracking) :
    Matches (tracking.step suffix change) ↔ tracking.LookupsAgree suffix change := by
  cases kind : change.kind with
  | upserted =>
      constructor
      · intro after
        exact ⟨sound.keyAgrees_of_upsert kind after, fun deleted => by simp [kind] at deleted⟩
      · exact fun agrees => sound.upsert kind agrees.1
  | deleted => exact ⟨sound.lookupsAgree_of_delete named kind, sound.delete named kind⟩

/-- Every upserted agent's workspace is announced in the same or an earlier update. -/
def Announced : List Workspace → List WorkspaceUpdate → Prop
  | _, [] => True
  | known, update :: rest =>
      (∀ agent ∈ update.upsertedAgents, ∃ workspace ∈ known ++ update.upsertedWorkspaces,
        workspace.id = agent.workspaceId) ∧
      Announced (known ++ update.upsertedWorkspaces) rest

/-- The map matches the stream after every agent of every update exactly when the
names looked up for the agents always lead to their own entries. -/
theorem matches_iff_lookupsAgree (suffix : String) (updates : List WorkspaceUpdate) :
    (∀ tracking, Visits (next suffix) new (updates.flatMap WorkspaceUpdate.changes) tracking →
        Matches tracking) ↔
      Conforms (next suffix) (LookupsAgree suffix) new
        (updates.flatMap WorkspaceUpdate.changes) := by
  refine visits_iff_conforms (Named suffix) Matches ?_ ?_ (fun _ => rfl) matches_new _
  · intro tracking change after named taken
    obtain rfl := Option.some.inj taken
    exact named.step change
  · intro tracking change after named sound taken
    obtain rfl := Option.some.inj taken
    exact matches_step_iff suffix tracking change named sound

/-- An agent goes away while its workspace stays, so its deletion finds no name. -/
theorem agent_deleted_without_workspace_stays_tracked :
    let dev : Workspace := ⟨0x1, "dev"⟩
    let main : Agent := ⟨0x2, "main", 0x1, [["fd60::1"]]⟩
    let updates : List WorkspaceUpdate := [⟨[dev], [main], [], []⟩, ⟨[], [], [], [main]⟩]
    Announced [] updates ∧
      ¬ ∀ tracking, Visits (next "coder") new (updates.flatMap WorkspaceUpdate.changes) tracking →
        Matches tracking := by
  intro dev main updates
  refine ⟨⟨by decide, by decide, trivial⟩, ?_⟩
  refine not_visits_of_replay (fun tracking =>
    "dev.main" ∈ tracking.agents ∧ tracking.farewells = [⟨"main.coder", some "main.dev.me.coder"⟩])
    (by decide) ?_
  intro tracking reached sound
  obtain ⟨-, farewells⟩ := of_decide_eq_true reached
  have same := sound.hostnames ⟨"main.coder", some "main.dev.me.coder"⟩
    (by simp [farewells]) _ rfl
  exact absurd same (by decide)

end Tracking

end CoderDesktop.Vpn
