import WhitelistBridge.Ros2Cycle

/-!
# How long a bridge lives

The loops that would remove topic bridges are commented out in `update_bridge`, so nothing
removes a topic bridge for lack of demand. A pass replaces a topic bridge whose types are out of
date: it erases the entry and then calls the factory, so a topic loses its bridge only when that
call throws. A service bridge is never replaced; the `update_bridge` whose service snapshot of its
direction no longer lists the service removes it.

## Main results

* `step_registry`: only the two `update_bridge` steps change the registries, each with the
  factories of its event.
* `step_loses_topic_bridge`: a step loses the bridge of a topic only at an `update_bridge`
  whose publisher snapshot lists the topic and whose factory throws for its types.
* `run_keeps_topic_bridges`: along any run whose factories build every topic bridge asked of
  them, every bridged topic stays bridged.
* `step_removes_service_bridge`: a step keeps every service bridge, handle unchanged, except at
  an `update_bridge` whose snapshot of that direction no longer lists the service, which
  removes it.
-/

namespace WhitelistBridge

variable {ρ H H12 H21 S12 S21 : Type}

/-- The factories an event hands to `update_bridge`; `none` for the steps that do not
reconcile. -/
def PollEvent.factories : PollEvent H12 H21 S12 S21 → Option (Factories H12 H21 S12 S21)
  | .ros1Update f => some f
  | .ros2Update f => some f
  | _ => none

/-- The topic bridge constructors of `f` never throw. -/
structure Factories.BuildsTopicBridges (f : Factories H12 H21 S12 S21) : Prop where
  createBridgeFrom1To2 : ∀ ros1Type topic ros2Type,
    (f.createBridgeFrom1To2 ros1Type topic ros2Type).isSome
  createBridgeFrom2To1 : ∀ ros2Type topic ros1Type,
    (f.createBridgeFrom2To1 ros2Type topic ros1Type).isSome

/-! ### One `update_bridge` -/

/-- An iteration of a topic pass leaves no entry where there was one only when it rebuilds the
bridge and the factory throws. -/
theorem topicBridgeOutcome_eq_none {target : String → String → Option String}
    {types : String → String → String × String}
    {upToDate : BridgeHandlesAndMessageTypes H → String × String → Bool}
    {create : String → String × String → Option H} {b : BridgeHandlesAndMessageTypes H}
    {t ty : String} (h : topicBridgeOutcome target types upToDate create t ty (some b) = none) :
    ∃ far, target t ty = some far ∧ create t (types ty far) = none := by
  obtain ⟨far, ht, -, heq⟩ :=
    topicBridgeOutcome_ne fun h' ↦ Option.noConfusion (h.symm.trans h')
  rw [h] at heq
  exact ⟨far, ht, Option.map_eq_none'.1 heq.symm⟩

section Update

variable {cfg : BridgeConfig ρ} {f : Factories H12 H21 S12 S21} {snapshots : Snapshots}
  {registry registry' : Registry H12 H21 S12 S21}

/-- An `update_bridge` loses the bridge of a topic only when the publisher snapshot of its
direction lists the topic and the factory throws for its type and the far type. -/
theorem updateBridge_loses_topic_bridge
    (hu : updateBridge cfg f snapshots registry = some registry') (t : String) :
    (t ∈ registry.bridges1to2 → t ∉ registry'.bridges1to2 → ∃ ros1Type ros2Type,
      snapshots.ros1Publishers.lookup t = some ros1Type ∧
      f.createBridgeFrom1To2 ros1Type t ros2Type = none) ∧
    (t ∈ registry.bridges2to1 → t ∉ registry'.bridges2to1 → ∃ ros2Type ros1Type,
      snapshots.ros2Publishers.lookup t = some ros2Type ∧
      f.createBridgeFrom2To1 ros2Type t ros1Type = none) := by
  obtain ⟨h12, h21⟩ := updateBridge_topics hu
  refine ⟨fun hin hout ↦ ?_, fun hin hout ↦ ?_⟩
  · obtain ⟨b, hb⟩ := Option.isSome_iff_exists.1 (AList.lookup_isSome.2 hin)
    rw [← AList.lookup_eq_none, h12] at hout
    simp only [updateTopicBridges, create1to2Bridges] at hout
    rw [lookup_foldl_of_pointwise createTopicBridge_pointwise, hb] at hout
    rcases hp : snapshots.ros1Publishers.lookup t with _ | ros1Type <;> simp only [hp, reduceCtorEq] at hout
    obtain ⟨far, -, hc⟩ := topicBridgeOutcome_eq_none hout
    exact ⟨ros1Type, far, rfl, hc⟩
  · obtain ⟨b, hb⟩ := Option.isSome_iff_exists.1 (AList.lookup_isSome.2 hin)
    rw [← AList.lookup_eq_none, h21] at hout
    simp only [updateTopicBridges, create2to1Bridges] at hout
    rw [lookup_foldl_of_pointwise createTopicBridge_pointwise, hb] at hout
    rcases hp : snapshots.ros2Publishers.lookup t with _ | ros2Type <;> simp only [hp, reduceCtorEq] at hout
    obtain ⟨far, -, hc⟩ := topicBridgeOutcome_eq_none hout
    exact ⟨ros2Type, far, rfl, hc⟩

end Update

/-! ### One step -/

section Step

variable {cfg : BridgeConfig ρ} {s s' : BridgeState H12 H21 S12 S21}
  {e : PollEvent H12 H21 S12 S21}

/-- **Only `update_bridge` changes the registries**, and with the factories of its event. -/
theorem step_registry (h : step cfg s e = some s') :
    (e.factories = none ∧ s'.registry = s.registry) ∨
      ∃ f, e.factories = some f ∧ updateBridge cfg f s.snapshots s.registry = some s'.registry := by
  cases e with
  | ros1SystemState payload? =>
    rcases payload? with _ | payload
    · obtain ⟨-, rfl⟩ := step_ros1SystemState_none h
      exact .inl ⟨rfl, rfl⟩
    · obtain ⟨-, _, _, _, _, _, -, -, rfl⟩ := step_ros1SystemState_some h
      exact .inl ⟨rfl, rfl⟩
  | ros1Topics topics? =>
    rcases topics? with _ | topics
    · obtain ⟨-, rfl⟩ := step_ros1Topics_none h
      exact .inl ⟨rfl, rfl⟩
    · obtain ⟨_, _, -, rfl⟩ := step_ros1Topics_some h
      exact .inl ⟨rfl, rfl⟩
  | ros1Update f =>
    obtain ⟨-, _, hu, rfl⟩ := step_ros1Update h
    exact .inr ⟨f, rfl, hu⟩
  | ros2Graph graph =>
    obtain ⟨-, rfl⟩ := step_ros2Graph h
    exact .inl ⟨rfl, rfl⟩
  | ros2PublishTopics =>
    obtain ⟨_, _, -, rfl⟩ := step_ros2PublishTopics h
    exact .inl ⟨rfl, rfl⟩
  | ros2Update f =>
    obtain ⟨-, _, hu, rfl⟩ := step_ros2Update h
    exact .inr ⟨f, rfl, hu⟩

/-- A step whose factories build every topic bridge keeps every bridged topic bridged. -/
theorem step_keeps_topic_bridges (hf : ∀ f, e.factories = some f → f.BuildsTopicBridges)
    (h : step cfg s e = some s') (t : String) :
    (t ∈ s.registry.bridges1to2 → t ∈ s'.registry.bridges1to2) ∧
    (t ∈ s.registry.bridges2to1 → t ∈ s'.registry.bridges2to1) := by
  rcases step_registry h with ⟨-, hreg⟩ | ⟨f, he, hu⟩
  · rw [hreg]
    exact ⟨id, id⟩
  obtain ⟨h12, h21⟩ := updateBridge_loses_topic_bridge hu t
  have hb := hf f he
  refine ⟨fun hin ↦ by_contra fun hout ↦ ?_, fun hin ↦ by_contra fun hout ↦ ?_⟩
  · obtain ⟨a, b, -, hc⟩ := h12 hin hout
    simpa [hc] using hb.createBridgeFrom1To2 a t b
  · obtain ⟨a, b, -, hc⟩ := h21 hin hout
    simpa [hc] using hb.createBridgeFrom2To1 a t b

end Step

/-- **A topic loses its bridge only when a rebuild throws.** A step after which a topic that had
a 1-to-2 (2-to-1) bridge has none is an `update_bridge` whose ROS 1 (ROS 2) publisher snapshot
lists the topic, and whose factory throws for the listed type and some far type. -/
theorem step_loses_topic_bridge (cfg : BridgeConfig ρ) (s s' : BridgeState H12 H21 S12 S21)
    (e : PollEvent H12 H21 S12 S21) (h : step cfg s e = some s') (t : String) :
    (t ∈ s.registry.bridges1to2 → t ∉ s'.registry.bridges1to2 → ∃ f ros1Type ros2Type,
      e.factories = some f ∧ s.snapshots.ros1Publishers.lookup t = some ros1Type ∧
      f.createBridgeFrom1To2 ros1Type t ros2Type = none) ∧
    (t ∈ s.registry.bridges2to1 → t ∉ s'.registry.bridges2to1 → ∃ f ros2Type ros1Type,
      e.factories = some f ∧ s.snapshots.ros2Publishers.lookup t = some ros2Type ∧
      f.createBridgeFrom2To1 ros2Type t ros1Type = none) := by
  rcases step_registry h with ⟨-, hreg⟩ | ⟨f, he, hu⟩
  · rw [hreg]
    exact ⟨absurd, absurd⟩
  obtain ⟨h12, h21⟩ := updateBridge_loses_topic_bridge hu t
  refine ⟨fun hin hout ↦ ?_, fun hin hout ↦ ?_⟩
  · obtain ⟨a, b, ha, hc⟩ := h12 hin hout
    exact ⟨f, a, b, he, ha, hc⟩
  · obtain ⟨a, b, ha, hc⟩ := h21 hin hout
    exact ⟨f, a, b, he, ha, hc⟩

/-- The `update_bridge` that ends the ROS 1 cycle of `retypedState`, with factories that build
no topic bridge. -/
def retypedUpdateEvent : PollEvent Unit Unit Unit Unit :=
  .ros1Update serviceFactories

theorem step_loses_topic_bridge_retyped :
    Reachable openConfig retypedState ∧ ∃ s' : BridgeState Unit Unit Unit Unit,
      step openConfig retypedState retypedUpdateEvent = some s' ∧
      (("/chatter" ∈ retypedState.registry.bridges1to2 →
        "/chatter" ∉ s'.registry.bridges1to2 →
        ∃ f ros1Type ros2Type, retypedUpdateEvent.factories = some f ∧
          retypedState.snapshots.ros1Publishers.lookup "/chatter" = some ros1Type ∧
          f.createBridgeFrom1To2 ros1Type "/chatter" ros2Type = none) ∧
      ("/chatter" ∈ retypedState.registry.bridges2to1 →
        "/chatter" ∉ s'.registry.bridges2to1 →
        ∃ f ros2Type ros1Type, retypedUpdateEvent.factories = some f ∧
          retypedState.snapshots.ros2Publishers.lookup "/chatter" = some ros2Type ∧
          f.createBridgeFrom2To1 ros2Type "/chatter" ros1Type = none)) :=
  ⟨reachable_retypedState, _, rfl,
    step_loses_topic_bridge openConfig retypedState _ retypedUpdateEvent rfl "/chatter"⟩

/-- **Once bridged, always bridged.** Along any run whose `update_bridge` calls use factories that
build every topic bridge asked of them, every topic bridged in either direction at the start is
still bridged in that direction at the end, whatever the two pollers see on the way. -/
theorem run_keeps_topic_bridges (cfg : BridgeConfig ρ) (s s' : BridgeState H12 H21 S12 S21)
    (events : List (PollEvent H12 H21 S12 S21))
    (hf : ∀ e ∈ events, ∀ f, e.factories = some f → f.BuildsTopicBridges)
    (h : run cfg s events = some s') (t : String) :
    (t ∈ s.registry.bridges1to2 → t ∈ s'.registry.bridges1to2) ∧
    (t ∈ s.registry.bridges2to1 → t ∈ s'.registry.bridges2to1) := by
  induction events generalizing s with
  | nil =>
    cases h
    exact ⟨id, id⟩
  | cons e events ih =>
    rw [run_cons, Option.bind_eq_some] at h
    obtain ⟨s₁, h₁, h₂⟩ := h
    obtain ⟨k12, k21⟩ := step_keeps_topic_bridges (hf e (.head _)) h₁ t
    obtain ⟨i12, i21⟩ := ih s₁ (fun e' he' ↦ hf e' (.tail _ he')) h₂
    exact ⟨i12 ∘ k12, i21 ∘ k21⟩

/-- The state after a ROS 1 cycle on `listenerPayload` and a ROS 2 cycle that bridges `/t` to
ROS 1. -/
def bridgedState : BridgeState Unit Unit Unit Unit :=
  (run openConfig listenerState (ros2PollEvents (topicGraph oneType) topicFactories)).getD
    initState

theorem run_keeps_topic_bridges_bridged :
    ∃ s' : BridgeState Unit Unit Unit Unit,
      ((∀ e ∈ ros2PollEvents (topicGraph oneType) topicFactories, ∀ f,
          PollEvent.factories e = some f → f.BuildsTopicBridges) ∧
        run openConfig bridgedState (ros2PollEvents (topicGraph oneType) topicFactories) =
          some s') ∧
      ("/t" ∈ bridgedState.registry.bridges1to2 → "/t" ∈ s'.registry.bridges1to2) ∧
      ("/t" ∈ bridgedState.registry.bridges2to1 → "/t" ∈ s'.registry.bridges2to1) :=
  have hf : ∀ e ∈ ros2PollEvents (topicGraph oneType) topicFactories, ∀ f,
      PollEvent.factories e = some f → f.BuildsTopicBridges := by
    simp only [ros2PollEvents, List.mem_cons, List.mem_singleton, List.not_mem_nil, or_false]
    rintro e (rfl | rfl | rfl) f hf <;> cases hf
    exact ⟨fun _ _ _ ↦ rfl, fun _ _ _ ↦ rfl⟩
  ⟨_, ⟨hf, rfl⟩, run_keeps_topic_bridges openConfig bridgedState _ _ hf rfl "/t"⟩

end WhitelistBridge
