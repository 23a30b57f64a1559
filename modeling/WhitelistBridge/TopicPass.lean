import WhitelistBridge.Model

/-!
# The topic passes of `update_bridge`

`update_bridge` first runs two loops over topics: `// create 1to2 bridges` over
`ros1_publishers` and `// create 2to1 bridges` over `ros2_publishers`. The removal loops that
follow them in the source are commented out ("appears to cause stability issues on
unreliable networks"), so nothing here removes a topic bridge for lack of demand.

The two loops are one body (`createTopicBridge`) applied to each direction's own data: the
far domain's subscribers and type mapping, the order of the two type names, the factory, and
the test that keeps an existing entry. The tests differ: the 1-to-2 loop keeps an entry that
records exactly the wanted pair, the 2-to-1 loop also keeps one whose ROS 1 type is the empty
placeholder `""` of a ROS 1 subscriber of unknown type.

## Key by key

The body touches only the topic it visits (`createTopicBridge_pointwise`), so each pass acts
key by key (`lookup_foldl_of_pointwise`): `updateTopicBridges_lookup` gives the entry of
every topic after the pass from the snapshots and the entry before.
-/

namespace WhitelistBridge

variable {ρ H H12 H21 S12 S21 : Type}

/-- The type the far end of a topic bridge must have: that of the far domain's subscriber
when there is one; otherwise, in bridge-all mode, the type the mapping gives for the
publisher's type; otherwise none, and the loop moves on. -/
def targetTypeName (subscribers : StrMap String) (bridgeAll : Bool)
    (mapping : String → Option String) (topicName typeName : String) : Option String :=
  match subscribers.lookup topicName with
  | some subscriberType => some subscriberType
  | none => if bridgeAll then mapping typeName else none

/-- The `try` block and the assignment after it: call the factory and record the new bridge
with its two types, or record nothing when the factory throws. -/
def installTopicBridge (create : String → String × String → Option H) (topicName : String)
    (typeNames : String × String) (bridges : StrMap (BridgeHandlesAndMessageTypes H)) :
    StrMap (BridgeHandlesAndMessageTypes H) :=
  match create topicName typeNames with
  | some h => bridges.insert topicName ⟨h, typeNames.1, typeNames.2⟩
  | none => bridges

/-- One iteration of a topic pass, at the publisher `⟨topicName, typeName⟩`. `types` orders
the publisher's type and the far type as (ROS 1 type, ROS 2 type). An existing entry that
passes `upToDate` is kept; any other is erased before the factory is called. -/
def createTopicBridge (target : String → String → Option String)
    (types : String → String → String × String)
    (upToDate : BridgeHandlesAndMessageTypes H → String × String → Bool)
    (create : String → String × String → Option H)
    (bridges : StrMap (BridgeHandlesAndMessageTypes H)) (publisher : Σ _ : String, String) :
    StrMap (BridgeHandlesAndMessageTypes H) :=
  match target publisher.1 publisher.2 with
  | none => bridges
  | some farType =>
    match bridges.lookup publisher.1 with
    | some bridge =>
      if upToDate bridge (types publisher.2 farType) then bridges
      else installTopicBridge create publisher.1 (types publisher.2 farType)
        (bridges.erase publisher.1)
    | none => installTopicBridge create publisher.1 (types publisher.2 farType) bridges

/-- The entry one iteration leaves at its topic, from the entry there before. -/
def topicBridgeOutcome (target : String → String → Option String)
    (types : String → String → String × String)
    (upToDate : BridgeHandlesAndMessageTypes H → String × String → Bool)
    (create : String → String × String → Option H) (topicName typeName : String)
    (old : Option (BridgeHandlesAndMessageTypes H)) : Option (BridgeHandlesAndMessageTypes H) :=
  match target topicName typeName with
  | none => old
  | some farType =>
    match old with
    | some bridge =>
      if upToDate bridge (types typeName farType) then some bridge
      else (create topicName (types typeName farType)).map
        fun h ↦ ⟨h, (types typeName farType).1, (types typeName farType).2⟩
    | none => (create topicName (types typeName farType)).map
        fun h ↦ ⟨h, (types typeName farType).1, (types typeName farType).2⟩

section Body

variable {create : String → String × String → Option H} {topicName k : String}
  {typeNames : String × String} {bridges : StrMap (BridgeHandlesAndMessageTypes H)}

theorem lookup_installTopicBridge (h : bridges.lookup topicName = none) :
    (installTopicBridge create topicName typeNames bridges).lookup k =
      if k = topicName then (create topicName typeNames).map (⟨·, typeNames.1, typeNames.2⟩)
      else bridges.lookup k := by
  unfold installTopicBridge
  split_ifs with hk
  · subst hk
    rcases create k typeNames with _ | h' <;> simp [AList.lookup_insert, h]
  · rcases create topicName typeNames with _ | h' <;> simp [AList.lookup_insert_ne hk]

/-- **The body of a topic pass touches only the topic it visits.** -/
theorem createTopicBridge_pointwise {target : String → String → Option String}
    {types : String → String → String × String}
    {upToDate : BridgeHandlesAndMessageTypes H → String × String → Bool} :
    Pointwise (createTopicBridge target types upToDate create)
      (topicBridgeOutcome target types upToDate create) := by
  rintro m ⟨t, ty⟩ k
  simp only [createTopicBridge, topicBridgeOutcome]
  rcases target t ty with _ | farType
  · exact (ite_self _).symm
  by_cases hk : k = t
  · subst hk
    rw [if_pos rfl]
    rcases hold : m.lookup k with _ | bridge
    · rw [lookup_installTopicBridge hold, if_pos rfl]
    · dsimp only
      split_ifs
      · exact hold
      · rw [lookup_installTopicBridge (AList.lookup_erase _ _), if_pos rfl]
  · rw [if_neg hk]
    rcases hold : m.lookup t with _ | bridge
    · rw [lookup_installTopicBridge hold, if_neg hk]
    · dsimp only
      split_ifs
      · rfl
      · rw [lookup_installTopicBridge (AList.lookup_erase _ _), if_neg hk,
          AList.lookup_erase_ne hk]

end Body

/-- `// create 1to2 bridges`: the loop over `ros1_publishers`. An entry is kept when it
records exactly the ROS 1 and ROS 2 types wanted. -/
def create1to2Bridges (cfg : BridgeConfig ρ) (f : Factories H12 H21 S12 S21)
    (snapshots : Snapshots) (bridges1to2 : StrMap (BridgeHandlesAndMessageTypes H12)) :
    StrMap (BridgeHandlesAndMessageTypes H12) :=
  snapshots.ros1Publishers.entries.foldl
    (createTopicBridge
      (targetTypeName snapshots.ros2Subscribers cfg.bridgeAll1to2Topics f.get1to2Mapping)
      (fun ros1TypeName ros2TypeName ↦ (ros1TypeName, ros2TypeName))
      (fun bridge typeNames ↦
        bridge.ros1TypeName == typeNames.1 && bridge.ros2TypeName == typeNames.2)
      (fun topicName typeNames ↦ f.createBridgeFrom1To2 typeNames.1 topicName typeNames.2))
    bridges1to2

/-- `// create 2to1 bridges`: the loop over `ros2_publishers`. An entry is kept when it
records the ROS 2 type wanted and either the ROS 1 type wanted or the empty placeholder. -/
def create2to1Bridges (cfg : BridgeConfig ρ) (f : Factories H12 H21 S12 S21)
    (snapshots : Snapshots) (bridges2to1 : StrMap (BridgeHandlesAndMessageTypes H21)) :
    StrMap (BridgeHandlesAndMessageTypes H21) :=
  snapshots.ros2Publishers.entries.foldl
    (createTopicBridge
      (targetTypeName snapshots.ros1Subscribers cfg.bridgeAll2to1Topics f.get2to1Mapping)
      (fun ros2TypeName ros1TypeName ↦ (ros1TypeName, ros2TypeName))
      (fun bridge typeNames ↦
        (bridge.ros1TypeName == typeNames.1 || bridge.ros1TypeName == "") &&
          bridge.ros2TypeName == typeNames.2)
      (fun topicName typeNames ↦ f.createBridgeFrom2To1 typeNames.2 topicName typeNames.1))
    bridges2to1

/-- The topic half of `update_bridge`: the 1-to-2 loop, then the 2-to-1 loop. -/
def updateTopicBridges (cfg : BridgeConfig ρ) (f : Factories H12 H21 S12 S21)
    (snapshots : Snapshots) (registry : Registry H12 H21 S12 S21) :
    Registry H12 H21 S12 S21 :=
  { registry with
    bridges1to2 := create1to2Bridges cfg f snapshots registry.bridges1to2
    bridges2to1 := create2to1Bridges cfg f snapshots registry.bridges2to1 }

@[simp] theorem updateTopicBridges_serviceBridges1To2 {cfg : BridgeConfig ρ}
    {f : Factories H12 H21 S12 S21} {snapshots : Snapshots}
    {registry : Registry H12 H21 S12 S21} :
    (updateTopicBridges cfg f snapshots registry).serviceBridges1To2 =
      registry.serviceBridges1To2 := rfl

@[simp] theorem updateTopicBridges_serviceBridges2To1 {cfg : BridgeConfig ρ}
    {f : Factories H12 H21 S12 S21} {snapshots : Snapshots}
    {registry : Registry H12 H21 S12 S21} :
    (updateTopicBridges cfg f snapshots registry).serviceBridges2To1 =
      registry.serviceBridges2To1 := rfl

/-- **How a pass changes the topic registries, topic by topic.** A topic that is not
published, or has no far subscriber and no bridge-all mapping, keeps its entry (or its
absence), handles included. Otherwise an existing entry that passes the direction's test is
kept with its handles, and in every other case the topic ends with a fresh entry recording
exactly the wanted pair when the factory succeeds and with no entry when it throws. The
2-to-1 test also accepts an entry whose ROS 1 type is the placeholder `""`. -/
theorem updateTopicBridges_lookup (cfg : BridgeConfig ρ) (f : Factories H12 H21 S12 S21)
    (snapshots : Snapshots) (registry : Registry H12 H21 S12 S21) (t : String) :
    (updateTopicBridges cfg f snapshots registry).bridges1to2.lookup t =
      (match snapshots.ros1Publishers.lookup t with
      | none => registry.bridges1to2.lookup t
      | some ros1TypeName =>
        match targetTypeName snapshots.ros2Subscribers cfg.bridgeAll1to2Topics
          f.get1to2Mapping t ros1TypeName with
        | none => registry.bridges1to2.lookup t
        | some ros2TypeName =>
          match registry.bridges1to2.lookup t with
          | some bridge =>
            if bridge.ros1TypeName = ros1TypeName ∧ bridge.ros2TypeName = ros2TypeName then
              some bridge
            else (f.createBridgeFrom1To2 ros1TypeName t ros2TypeName).map
              (⟨·, ros1TypeName, ros2TypeName⟩)
          | none => (f.createBridgeFrom1To2 ros1TypeName t ros2TypeName).map
              (⟨·, ros1TypeName, ros2TypeName⟩)) ∧
    (updateTopicBridges cfg f snapshots registry).bridges2to1.lookup t =
      (match snapshots.ros2Publishers.lookup t with
      | none => registry.bridges2to1.lookup t
      | some ros2TypeName =>
        match targetTypeName snapshots.ros1Subscribers cfg.bridgeAll2to1Topics
          f.get2to1Mapping t ros2TypeName with
        | none => registry.bridges2to1.lookup t
        | some ros1TypeName =>
          match registry.bridges2to1.lookup t with
          | some bridge =>
            if (bridge.ros1TypeName = ros1TypeName ∨ bridge.ros1TypeName = "") ∧
                bridge.ros2TypeName = ros2TypeName then some bridge
            else (f.createBridgeFrom2To1 ros2TypeName t ros1TypeName).map
              (⟨·, ros1TypeName, ros2TypeName⟩)
          | none => (f.createBridgeFrom2To1 ros2TypeName t ros1TypeName).map
              (⟨·, ros1TypeName, ros2TypeName⟩)) := by
  constructor <;>
  · simp only [updateTopicBridges, create1to2Bridges, create2to1Bridges]
    rw [lookup_foldl_of_pointwise createTopicBridge_pointwise]
    rcases AList.lookup t _ with _ | typeName
    · rfl
    simp only [topicBridgeOutcome]
    rcases targetTypeName _ _ _ t typeName with _ | farType
    · rfl
    rcases AList.lookup t _ with _ | bridge
    · rfl
    simp [Bool.and_eq_true, Bool.or_eq_true, beq_iff_eq]

/-- A topic pass adds only topics that the publisher snapshot of its direction lists. -/
theorem mem_updateTopicBridges {cfg : BridgeConfig ρ} {f : Factories H12 H21 S12 S21}
    {snapshots : Snapshots} {registry : Registry H12 H21 S12 S21} {t : String} :
    (t ∈ (updateTopicBridges cfg f snapshots registry).bridges1to2 →
      t ∈ registry.bridges1to2 ∨ t ∈ snapshots.ros1Publishers) ∧
    (t ∈ (updateTopicBridges cfg f snapshots registry).bridges2to1 →
      t ∈ registry.bridges2to1 ∨ t ∈ snapshots.ros2Publishers) := by
  constructor <;>
  · intro ht
    by_contra hn
    rw [not_or] at hn
    simp only [updateTopicBridges, create1to2Bridges, create2to1Bridges] at ht
    rw [← AList.lookup_isSome, lookup_foldl_of_pointwise createTopicBridge_pointwise,
      AList.lookup_eq_none.2 hn.2, AList.lookup_isSome] at ht
    exact hn.1 ht

/-! ### Running a pass again -/

section Again

variable {target : String → String → Option String} {types : String → String → String × String}
  {upToDate : BridgeHandlesAndMessageTypes H → String × String → Bool}
  {create create' : String → String × String → Option H}

/-- An iteration that finds at its topic what the same iteration left there from some entry
`old` does nothing, provided the test accepts the types the factory records and `create'`
agrees with `create` at a topic without an entry. -/
theorem createTopicBridge_eq_self (hrefl : ∀ h p, upToDate ⟨h, p.1, p.2⟩ p = true)
    {m : StrMap (BridgeHandlesAndMessageTypes H)} {t ty : String}
    {old : Option (BridgeHandlesAndMessageTypes H)}
    (hm : m.lookup t = topicBridgeOutcome target types upToDate create t ty old)
    (hc : t ∉ m → create' t = create t) :
    createTopicBridge target types upToDate create' m ⟨t, ty⟩ = m := by
  unfold topicBridgeOutcome at hm
  unfold createTopicBridge
  dsimp only
  cases ht : target t ty with
  | none => rfl
  | some far =>
    simp only [ht] at hm
    rcases hm' : m.lookup t with _ | b
    · have hnone : create t (types ty far) = none := by
        rw [hm'] at hm
        rcases old with _ | b'
        · exact Option.map_eq_none'.1 hm.symm
        · dsimp only at hm
          split_ifs at hm
          exact Option.map_eq_none'.1 hm.symm
      dsimp only
      rw [installTopicBridge, hc (AList.lookup_eq_none.1 hm'), hnone]
    · have hup : upToDate b (types ty far) = true := by
        rw [hm'] at hm
        rcases old with _ | b'
        · obtain ⟨h, -, hb⟩ := Option.map_eq_some'.1 hm.symm
          exact hb ▸ hrefl h _
        · dsimp only at hm
          split_ifs at hm with hup
          · cases hm
            exact hup
          · obtain ⟨h, -, hb⟩ := Option.map_eq_some'.1 hm.symm
            exact hb ▸ hrefl h _
      dsimp only
      rw [if_pos hup]

/-- **A topic pass run again on what it produced does nothing**, when the test accepts the
types the factory records and `create'` agrees with `create` at every topic the first run
left without an entry. -/
theorem foldl_createTopicBridge_again (hrefl : ∀ h p, upToDate ⟨h, p.1, p.2⟩ p = true)
    (publishers : StrMap String) (m : StrMap (BridgeHandlesAndMessageTypes H))
    (hc : ∀ t, t ∉ publishers.entries.foldl (createTopicBridge target types upToDate create) m →
      create' t = create t) :
    publishers.entries.foldl (createTopicBridge target types upToDate create')
        (publishers.entries.foldl (createTopicBridge target types upToDate create) m) =
      publishers.entries.foldl (createTopicBridge target types upToDate create) m :=
  foldl_eq_self fun ⟨t, ty⟩ he ↦ createTopicBridge_eq_self hrefl
    (by rw [lookup_foldl_of_pointwise createTopicBridge_pointwise, AList.mem_lookup_iff.2 he])
    (hc t)

end Again

/-! ### Bridges are rebuilt only to change their types -/

section Stable

variable {target : String → String → Option String} {types : String → String → String × String}
  {upToDate : BridgeHandlesAndMessageTypes H → String × String → Bool}
  {create : String → String × String → Option H} {b b' : BridgeHandlesAndMessageTypes H}

/-- An iteration whose topic has a far type, and whose factory builds a bridge for the wanted
types, leaves an entry recording exactly those types, when the test accepts only them. -/
theorem topicBridgeOutcome_records
    (hsound : ∀ b p, upToDate b p = true → b.ros1TypeName = p.1 ∧ b.ros2TypeName = p.2)
    {t ty far : String} (ht : target t ty = some far) (hc : (create t (types ty far)).isSome)
    (old : Option (BridgeHandlesAndMessageTypes H)) :
    ∃ b, topicBridgeOutcome target types upToDate create t ty old = some b ∧
      b.ros1TypeName = (types ty far).1 ∧ b.ros2TypeName = (types ty far).2 := by
  obtain ⟨h, hh⟩ := Option.isSome_iff_exists.1 hc
  have built : ∃ b : BridgeHandlesAndMessageTypes H,
      (create t (types ty far)).map (⟨·, (types ty far).1, (types ty far).2⟩) = some b ∧
        b.ros1TypeName = (types ty far).1 ∧ b.ros2TypeName = (types ty far).2 :=
    ⟨⟨h, (types ty far).1, (types ty far).2⟩, by rw [hh]; rfl, rfl, rfl⟩
  unfold topicBridgeOutcome
  rw [ht]
  rcases old with _ | b
  · exact built
  dsimp only
  split_ifs with hup
  · exact ⟨b, rfl, hsound b _ hup⟩
  · exact built

/-- An iteration whose topic has no far type leaves its entry, or its absence, as it was. -/
theorem topicBridgeOutcome_of_target_eq_none {t ty : String} (ht : target t ty = none)
    (old : Option (BridgeHandlesAndMessageTypes H)) :
    topicBridgeOutcome target types upToDate create t ty old = old := by
  simp [topicBridgeOutcome, ht]

/-- An iteration whose topic has a far type, and whose factory builds a bridge for the wanted
types, leaves an entry that passes the test for them, when the test accepts the types a bridge
records: the old entry when it passed already, or the new bridge. -/
theorem topicBridgeOutcome_upToDate {Q : BridgeHandlesAndMessageTypes H → Prop}
    (hrefl : ∀ h p, upToDate ⟨h, p.1, p.2⟩ p = true) {t ty far : String}
    (ht : target t ty = some far) (hc : (create t (types ty far)).isSome)
    (hQ : ∀ b, upToDate b (types ty far) = true → Q b)
    (old : Option (BridgeHandlesAndMessageTypes H)) :
    ∃ b, topicBridgeOutcome target types upToDate create t ty old = some b ∧ Q b := by
  obtain ⟨h, hh⟩ := Option.isSome_iff_exists.1 hc
  unfold topicBridgeOutcome
  rcases old with _ | b <;> simp only [ht]
  · exact ⟨_, by rw [hh]; rfl, hQ _ (hrefl h _)⟩
  split_ifs with hup
  · exact ⟨b, rfl, hQ b hup⟩
  · exact ⟨_, by rw [hh]; rfl, hQ _ (hrefl h _)⟩

/-- **An iteration replaces an entry only when it fails the test**: a topic whose entry `b` does
not stay has a far type for which `b` fails the test, and ends with what the factory builds for
the wanted types, which is nothing when it throws. -/
theorem topicBridgeOutcome_ne {t ty : String}
    (h : topicBridgeOutcome target types upToDate create t ty (some b) ≠ some b) :
    ∃ far, target t ty = some far ∧ upToDate b (types ty far) = false ∧
      topicBridgeOutcome target types upToDate create t ty (some b) =
        (create t (types ty far)).map (⟨·, (types ty far).1, (types ty far).2⟩) := by
  unfold topicBridgeOutcome at h ⊢
  rcases ht : target t ty with _ | far <;> simp only [ht] at h ⊢
  · exact absurd rfl h
  by_cases hup : upToDate b (types ty far)
  · exact absurd (if_pos hup) h
  · exact ⟨far, rfl, eq_false_of_ne_true hup, if_neg hup⟩

end Stable

/-- **The topic passes run again on what they produced do nothing**, when the factories
`f'` of the second run map types as `f` does and agree with `f` at every topic the first run
left without an entry. -/
theorem updateTopicBridges_again {cfg : BridgeConfig ρ} {f f' : Factories H12 H21 S12 S21}
    {snapshots : Snapshots} {registry registry' : Registry H12 H21 S12 S21}
    (hb1 : registry'.bridges1to2 = (updateTopicBridges cfg f snapshots registry).bridges1to2)
    (hb2 : registry'.bridges2to1 = (updateTopicBridges cfg f snapshots registry).bridges2to1)
    (h1 : f'.get1to2Mapping = f.get1to2Mapping) (h2 : f'.get2to1Mapping = f.get2to1Mapping)
    (hc1 : ∀ t, t ∉ registry'.bridges1to2 → ∀ ros1TypeName ros2TypeName,
      f'.createBridgeFrom1To2 ros1TypeName t ros2TypeName =
        f.createBridgeFrom1To2 ros1TypeName t ros2TypeName)
    (hc2 : ∀ t, t ∉ registry'.bridges2to1 → ∀ ros2TypeName ros1TypeName,
      f'.createBridgeFrom2To1 ros2TypeName t ros1TypeName =
        f.createBridgeFrom2To1 ros2TypeName t ros1TypeName) :
    updateTopicBridges cfg f' snapshots registry' = registry' := by
  rcases registry' with ⟨b12, b21, s12, s21⟩
  simp only [updateTopicBridges, create1to2Bridges, create2to1Bridges] at hb1 hb2 hc1 hc2 ⊢
  subst hb1 hb2
  rw [h1, h2, foldl_createTopicBridge_again (by simp) _ _
      fun t ht ↦ funext fun p ↦ hc1 t ht p.1 p.2,
    foldl_createTopicBridge_again (by simp) _ _ fun t ht ↦ funext fun p ↦ hc2 t ht p.2 p.1]

end WhitelistBridge
