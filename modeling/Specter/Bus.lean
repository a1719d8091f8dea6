import Specter.LastKnown

/-!
# Who can change the armed flag

mavlink-router relays the heartbeats of every node on the bus. A node is
named by a system id and a component id; the source filter of
`update_state` compares the system id only. So the armed flag and the
flight mode follow the flight controller as long as it has its system id
to itself, and follow whoever spoke last under that id otherwise.
-/

namespace Specter

/-- What a heartbeat says about the vehicle. -/
def report (env : Env) (beat : Heartbeat) : Bool × String :=
  (beat.armed, env.modeStringV10 beat)

/-- `armed` and `flight_mode` after some messages. -/
def shownReport (env : Env) (msgs : List Message) : Bool × String :=
  let st := (msgs.foldl (updateState env) (Sender.init env)).state
  (st.armed, st.flightMode)

/-- The messages of the node with the connected system id and component
id `component`. -/
def fromNode (env : Env) (component : UInt8) (msgs : List Message) : List Message :=
  (fromTarget env msgs).filter (·.srcComponent = component)

/-- The last report of the flight controller, component `component` of the
connected system, or the initial values. -/
def vehicleReport (env : Env) (component : UInt8) (msgs : List Message) : Bool × String :=
  lastKnown (report env) (false, "UNKNOWN")
    ((fromNode env component msgs).filterMap (·.heartbeat?))

/-- The last message that `update_state` takes for a heartbeat of the
flight controller. -/
def lastHeartbeat? (env : Env) (msgs : List Message) : Option Message :=
  ((fromTarget env msgs).filter (·.heartbeat?.isSome)).getLast?

/-- The last heartbeat under the connected system id is the flight
controller's, or happens to say just what the flight controller's last
one does. -/
def GenuineLast (env : Env) (component : UInt8) (msgs : List Message) : Prop :=
  ∀ msg beat, lastHeartbeat? env msgs = some msg → msg.heartbeat? = some beat →
    msg.srcComponent = component ∨ report env beat = vehicleReport env component msgs

theorem shownReport_eq (env : Env) (msgs : List Message) :
    shownReport env msgs = lastKnown (report env) (false, "UNKNOWN")
      ((fromTarget env msgs).filterMap (·.heartbeat?)) := by
  have h := (keeps_armedMode env).foldl (Sender.init env) msgs
  rw [last_fieldWrite] at h
  exact h

theorem filterMap_filter_isSome {α : Type} (select : Message → Option α) (msgs : List Message) :
    (msgs.filter fun msg => (select msg).isSome).filterMap select = msgs.filterMap select := by
  rw [List.filterMap_filter]
  congr 1
  funext msg
  cases h : select msg <;> simp

theorem shownReport_of_last (env : Env) (msgs : List Message) :
    (lastHeartbeat? env msgs = none ∧ shownReport env msgs = (false, "UNKNOWN")) ∨
      ∃ msg beat, lastHeartbeat? env msgs = some msg ∧ msg.heartbeat? = some beat
        ∧ shownReport env msgs = report env beat := by
  rw [shownReport_eq, ← filterMap_filter_isSome (·.heartbeat?)]
  unfold lastHeartbeat?
  set beats := (fromTarget env msgs).filter (·.heartbeat?.isSome) with hbeats
  rcases List.eq_nil_or_concat beats with hnil | ⟨init, msg, hconcat⟩
  · exact Or.inl ⟨by rw [hnil]; rfl, by rw [hnil]; rfl⟩
  · have hmem : msg ∈ beats := by rw [hconcat]; simp
    obtain ⟨beat, hbeat⟩ := Option.isSome_iff_exists.mp (List.mem_filter.mp hmem).2
    refine Or.inr ⟨msg, beat, by rw [hconcat]; simp, hbeat, ?_⟩
    rw [hconcat, List.concat_eq_append, List.filterMap_append]
    simp [lastKnown, hbeat]

theorem fromNode_heartbeats (env : Env) (component : UInt8) (msgs : List Message) :
    (fromNode env component msgs).filterMap (·.heartbeat?)
      = (((fromTarget env msgs).filter (·.heartbeat?.isSome)).filter
          (·.srcComponent = component)).filterMap (·.heartbeat?) := by
  rw [List.filter_comm, filterMap_filter_isSome (·.heartbeat?), fromNode]

theorem vehicleReport_of_none {env : Env} {component : UInt8} {msgs : List Message}
    (h : lastHeartbeat? env msgs = none) :
    vehicleReport env component msgs = (false, "UNKNOWN") := by
  rw [vehicleReport, fromNode_heartbeats, List.getLast?_eq_none_iff.mp h]
  rfl

theorem vehicleReport_of_genuine {env : Env} {component : UInt8} {msgs : List Message}
    {msg : Message} {beat : Heartbeat} (hlast : lastHeartbeat? env msgs = some msg)
    (hbeat : msg.heartbeat? = some beat) (hcomp : msg.srcComponent = component) :
    vehicleReport env component msgs = report env beat := by
  obtain ⟨init, hinit⟩ := List.getLast?_eq_some_iff.mp hlast
  rw [vehicleReport, fromNode_heartbeats, hinit]
  simp [lastKnown, hcomp, hbeat]

/-- **Noninterference, exactly.** After any interleaving of the nodes of
the bus, `armed` and `flight_mode` are those of the flight controller's
last heartbeat if and only if the last heartbeat under its system id is
its own or says the same. -/
theorem shownReport_eq_vehicleReport_iff (env : Env) (component : UInt8)
    (msgs : List Message) :
    shownReport env msgs = vehicleReport env component msgs
      ↔ GenuineLast env component msgs := by
  rcases shownReport_of_last env msgs with
    ⟨hnone, hshown⟩ | ⟨msg, beat, hlast, hbeat, hshown⟩
  · rw [hshown, vehicleReport_of_none hnone]
    exact iff_of_true rfl fun msg beat hlast _ => by rw [hnone] at hlast; cases hlast
  · rw [hshown]
    constructor
    · intro heq msg' beat' hlast' hbeat'
      obtain rfl := Option.some.inj (hlast.symm.trans hlast')
      obtain rfl := Option.some.inj (hbeat.symm.trans hbeat')
      exact Or.inr heq
    · intro hgen
      rcases hgen msg beat hlast hbeat with hcomp | heq
      · exact (vehicleReport_of_genuine hlast hbeat hcomp).symm
      · exact heq

/-- The flight controller (component 1) is armed; a gimbal with the same
system id (component 154) then reports itself, and the vehicle shows as
disarmed. -/
theorem gimbal_disarms_vehicle :
    let armed : Message := ⟨1, 1, .heartbeat ⟨2, 3, 217, 4⟩⟩
    let gimbal : Message := ⟨1, 154, .heartbeat ⟨26, 8, 0, 0⟩⟩
    vehicleReport benchEnv 1 [armed, gimbal] = (true, "AUTO")
      ∧ shownReport benchEnv [armed, gimbal] = (false, "STABILIZE") := by
  decide

end Specter
