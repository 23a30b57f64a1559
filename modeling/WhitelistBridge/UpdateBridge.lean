import WhitelistBridge.ServicePass

/-!
# `update_bridge`

`update_bridge` runs, under `g_bridge_mutex`, the two topic passes and then the four service
loops. It does not return when a service entry lacks a field or a removal keeps throwing;
the model then gives `none`.

## What a call does

* `updateBridge_topics`: the topic registries after a call are those of the topic passes
  (`updateTopicBridges_lookup` describes them), since the service loops do not touch them.
* `lookup_updateServiceBridges`: each service map after a call keeps the old entries the
  originating snapshot still lists, and gains the bridges built for the listed names that
  neither map held; the 1-to-2 loop sees the 2-to-1 entries the ROS 1 loop just made.
* `updateBridge_disjoint`: a call keeps the two service maps disjoint, whatever the snapshots
  and the factories.
* `isSome_updateBridge`: a call returns when every entry of the service snapshots carries its
  package and name and every removal it makes completes.
* `updateBridge_serviceBridges`: the service maps after such a call, name by name.
* `updateBridge_idempotent`: a second call with the same snapshots changes nothing, unless a
  service switched sides.
-/

namespace WhitelistBridge

variable {ρ H12 H21 S12 S21 : Type}

/-- The service half of `update_bridge`: the ROS 1 and ROS 2 creation loops, then the two
removal loops. -/
def updateServiceBridges (f : Factories H12 H21 S12 S21) (snapshots : Snapshots)
    (registry : Registry H12 H21 S12 S21) : Option (Registry H12 H21 S12 S21) := do
  let serviceBridges2To1 ← createServiceBridges f.getServiceFactory "ros1"
    (·.serviceBridge2To1) registry.serviceBridges1To2 snapshots.ros1Services
    registry.serviceBridges2To1
  let serviceBridges1To2 ← createServiceBridges f.getServiceFactory "ros2"
    (·.serviceBridge1To2) serviceBridges2To1 snapshots.ros2Services registry.serviceBridges1To2
  let serviceBridges2To1 ← eraseObsoleteServices snapshots.ros1Services
    f.removeServiceBridge2To1 serviceBridges2To1 serviceBridges2To1.entries
  let serviceBridges1To2 ← eraseObsoleteServices snapshots.ros2Services
    f.removeServiceBridge1To2 serviceBridges1To2 serviceBridges1To2.entries
  pure { registry with serviceBridges1To2, serviceBridges2To1 }

/-- `update_bridge`: the topic passes, then the service passes; `none` when the call does
not return. -/
def updateBridge (cfg : BridgeConfig ρ) (f : Factories H12 H21 S12 S21) (snapshots : Snapshots)
    (registry : Registry H12 H21 S12 S21) : Option (Registry H12 H21 S12 S21) :=
  updateServiceBridges f snapshots (updateTopicBridges cfg f snapshots registry)

section Spec

variable {cfg : BridgeConfig ρ} {f : Factories H12 H21 S12 S21} {snapshots : Snapshots}
  {registry registry' : Registry H12 H21 S12 S21}

/-- The four loops of the service half, one after the other. -/
theorem updateServiceBridges_eq_some :
    updateServiceBridges f snapshots registry = some registry' ↔
      ∃ created2To1 created1To2 kept2To1 kept1To2,
        createServiceBridges f.getServiceFactory "ros1" (·.serviceBridge2To1)
          registry.serviceBridges1To2 snapshots.ros1Services registry.serviceBridges2To1 =
            some created2To1 ∧
        createServiceBridges f.getServiceFactory "ros2" (·.serviceBridge1To2) created2To1
          snapshots.ros2Services registry.serviceBridges1To2 = some created1To2 ∧
        eraseObsoleteServices snapshots.ros1Services f.removeServiceBridge2To1 created2To1
          created2To1.entries = some kept2To1 ∧
        eraseObsoleteServices snapshots.ros2Services f.removeServiceBridge1To2 created1To2
          created1To2.entries = some kept1To2 ∧
        registry' =
          { registry with serviceBridges1To2 := kept1To2, serviceBridges2To1 := kept2To1 } := by
  simp only [updateServiceBridges, bind, pure, Option.bind_eq_some, Option.some.injEq]
  exact ⟨fun ⟨a, ha, b, hb, c, hc, d, hd, he⟩ ↦ ⟨a, b, c, d, ha, hb, hc, hd, he.symm⟩,
    fun ⟨a, b, c, d, ha, hb, hc, hd, he⟩ ↦ ⟨a, ha, b, hb, c, hc, d, hd, he.symm⟩⟩

/-- **What the service half leaves at each name.** A 2-to-1 entry survives only for a name
`ros1_services` lists: the old entry with its handle, or, when neither map held the name,
what the ROS 1 factory builds. A 1-to-2 entry likewise for `ros2_services`, where a new one
also needs the name absent from the 2-to-1 map as the ROS 1 loop left it. -/
theorem lookup_updateServiceBridges
    (h : updateServiceBridges f snapshots registry = some registry') (name : String) :
    registry'.serviceBridges2To1.lookup name =
      (match snapshots.ros1Services.lookup name with
      | none => none
      | some details =>
        match registry.serviceBridges2To1.lookup name with
        | some bridge => some bridge
        | none => if name ∈ registry.serviceBridges1To2 then none
          else buildServiceBridge f.getServiceFactory "ros1" (·.serviceBridge2To1) name
            details) ∧
    registry'.serviceBridges1To2.lookup name =
      (match snapshots.ros2Services.lookup name with
      | none => none
      | some details =>
        match registry.serviceBridges1To2.lookup name with
        | some bridge => some bridge
        | none =>
          if name ∈ registry.serviceBridges2To1 ∨
              ((snapshots.ros1Services.lookup name).bind
                (buildServiceBridge f.getServiceFactory "ros1" (·.serviceBridge2To1)
                  name)).isSome
          then none
          else buildServiceBridge f.getServiceFactory "ros2" (·.serviceBridge1To2) name
            details) := by
  obtain ⟨c21, c12, k21, k12, h21, h12, e21, e12, rfl⟩ := updateServiceBridges_eq_some.1 h
  have l21 := lookup_createServiceBridges h21 name
  refine ⟨?_, ?_⟩
  · show k21.lookup name = _
    rw [lookup_eraseObsoleteServices_entries e21, l21]
    rcases hs : snapshots.ros1Services.lookup name with _ | details
    · exact if_neg (AList.lookup_eq_none.1 hs)
    · exact if_pos (AList.lookup_isSome.1 (by rw [hs]; rfl))
  · show k12.lookup name = _
    rw [lookup_eraseObsoleteServices_entries e12, lookup_createServiceBridges h12 name]
    rcases hs : snapshots.ros2Services.lookup name with _ | details
    · exact if_neg (AList.lookup_eq_none.1 hs)
    rw [if_pos (AList.lookup_isSome.1 (by rw [hs]; rfl))]
    rcases ho : registry.serviceBridges1To2.lookup name with _ | bridge
    · refine if_congr ?_ rfl rfl
      rw [← AList.lookup_isSome, l21]
      rcases snapshots.ros1Services.lookup name with _ | details₁
      · simp [AList.lookup_isSome]
      · rcases h2 : registry.serviceBridges2To1.lookup name with _ | bridge₁
        · simp [AList.lookup_eq_none.1 ho, AList.lookup_eq_none.1 h2]
        · simp [AList.lookup_isSome.1 (by rw [h2]; rfl : (registry.serviceBridges2To1.lookup
            name).isSome)]
    · rfl

/-- No service name is bridged in both directions. -/
def ServiceBridgesDisjoint (registry : Registry H12 H21 S12 S21) : Prop :=
  ∀ name, name ∈ registry.serviceBridges1To2 → name ∉ registry.serviceBridges2To1

/-- **The service half never bridges a name both ways**: a name the 1-to-2 loop adds is one
the 2-to-1 map lacks after the ROS 1 loop, and that loop adds only names the 1-to-2 map
lacks. -/
theorem updateServiceBridges_disjoint
    (h : updateServiceBridges f snapshots registry = some registry')
    (hd : ServiceBridgesDisjoint registry) : ServiceBridgesDisjoint registry' := by
  obtain ⟨c21, c12, k21, k12, h21, h12, e21, e12, rfl⟩ := updateServiceBridges_eq_some.1 h
  intro name h12' h21'
  have in21 := mem_of_mem_eraseObsoleteServices e21 h21'
  have old12 := (mem_of_mem_createServiceBridges h12
    (mem_of_mem_eraseObsoleteServices e12 h12')).resolve_right (not_not.2 in21)
  exact hd name old12 ((mem_of_mem_createServiceBridges h21 in21).resolve_right (not_not.2 old12))

/-- The topic registries after a call are those of the topic passes. -/
theorem updateBridge_topics (h : updateBridge cfg f snapshots registry = some registry') :
    registry'.bridges1to2 = (updateTopicBridges cfg f snapshots registry).bridges1to2 ∧
      registry'.bridges2to1 = (updateTopicBridges cfg f snapshots registry).bridges2to1 := by
  obtain ⟨_, _, _, _, -, -, -, -, rfl⟩ := updateServiceBridges_eq_some.1 h
  exact ⟨rfl, rfl⟩

/-- **`update_bridge` adds only names the snapshots list**: a topic registry gains only
topics that the publisher snapshot of its direction lists, and a service map keeps only names
that the service snapshot of its direction lists. -/
theorem mem_updateBridge (h : updateBridge cfg f snapshots registry = some registry')
    {k : String} :
    (k ∈ registry'.bridges1to2 → k ∈ registry.bridges1to2 ∨ k ∈ snapshots.ros1Publishers) ∧
    (k ∈ registry'.bridges2to1 → k ∈ registry.bridges2to1 ∨ k ∈ snapshots.ros2Publishers) ∧
    (k ∈ registry'.serviceBridges1To2 → k ∈ snapshots.ros2Services) ∧
    (k ∈ registry'.serviceBridges2To1 → k ∈ snapshots.ros1Services) := by
  obtain ⟨_, _, _, _, -, -, e21, e12, rfl⟩ := updateServiceBridges_eq_some.1 h
  exact ⟨mem_updateTopicBridges.1, mem_updateTopicBridges.2,
    mem_services_of_eraseObsoleteServices e12, mem_services_of_eraseObsoleteServices e21⟩

/-- `update_bridge` never bridges a service name both ways when it started so. -/
theorem updateBridge_disjoint (h : updateBridge cfg f snapshots registry = some registry')
    (hd : ServiceBridgesDisjoint registry) : ServiceBridgesDisjoint registry' :=
  updateServiceBridges_disjoint h hd

/-- `registry'` keeps the bridges of `registry`: a topic bridge that records the same types in
both is the same bridge, handles included, and a service bridge is kept or removed, never
rebuilt. -/
structure Registry.KeepsBridges (registry registry' : Registry H12 H21 S12 S21) : Prop where
  bridges1to2 : ∀ t b b', registry.bridges1to2.lookup t = some b →
    registry'.bridges1to2.lookup t = some b' →
    b'.ros1TypeName = b.ros1TypeName ∧ b'.ros2TypeName = b.ros2TypeName → b' = b
  bridges2to1 : ∀ t b b', registry.bridges2to1.lookup t = some b →
    registry'.bridges2to1.lookup t = some b' →
    b'.ros1TypeName = b.ros1TypeName ∧ b'.ros2TypeName = b.ros2TypeName → b' = b
  serviceBridges1To2 : ∀ n b, registry.serviceBridges1To2.lookup n = some b →
    registry'.serviceBridges1To2.lookup n = none ∨ registry'.serviceBridges1To2.lookup n = some b
  serviceBridges2To1 : ∀ n b, registry.serviceBridges2To1.lookup n = some b →
    registry'.serviceBridges2To1.lookup n = none ∨ registry'.serviceBridges2To1.lookup n = some b

theorem Registry.KeepsBridges.refl (registry : Registry H12 H21 S12 S21) :
    registry.KeepsBridges registry where
  bridges1to2 _ _ _ hb hb' _ := Option.some.inj (hb'.symm.trans hb)
  bridges2to1 _ _ _ hb hb' _ := Option.some.inj (hb'.symm.trans hb)
  serviceBridges1To2 _ _ hb := .inr hb
  serviceBridges2To1 _ _ hb := .inr hb

end Spec

/-! ### Concrete calls -/

/-- A configuration with one pattern that matches every name and no bridge-all mode. -/
def openConfig : BridgeConfig Unit :=
  ⟨fun _ _ ↦ true, [()], [()], false, false, "/ros12_bridge_default"⟩

/-- Factories with no type mapping and no topic bridge, a service factory for every type
whose builders succeed, and removals that complete. -/
def serviceFactories : Factories Unit Unit Unit Unit :=
  ⟨fun _ ↦ none, fun _ ↦ none, fun _ _ _ ↦ none, fun _ _ _ ↦ none,
    fun _ _ _ ↦ some ⟨fun _ ↦ some (), fun _ ↦ some ()⟩, fun _ _ ↦ true, fun _ _ ↦ true⟩

/-- Factories whose topic bridge constructors succeed for every topic and pair of types, with
the service parts of `serviceFactories`. -/
def topicFactories : Factories Unit Unit Unit Unit :=
  { serviceFactories with
    createBridgeFrom1To2 := fun _ _ _ ↦ some ()
    createBridgeFrom2To1 := fun _ _ _ ↦ some () }

/-- The details of a service of type `pkg/Srv`. -/
def srvDetails : ServiceDetails :=
  ((∅ : StrMap String).insert "package" "pkg").insert "name" "Srv"

/-- Snapshots in which ROS 1 offers one service, `/s` of type `pkg/Srv`. -/
def srvOnRos1 : Snapshots :=
  { Snapshots.empty with ros1Services := (∅ : StrMap ServiceDetails).insert "/s" srvDetails }

/-- No service name is bridged in one direction while the snapshot of that direction omits
it and the other direction's snapshot lists it. -/
def NoServiceSwitching (snapshots : Snapshots) (registry : Registry H12 H21 S12 S21) : Prop :=
  (∀ name ∈ registry.serviceBridges1To2, name ∉ snapshots.ros2Services →
    name ∉ snapshots.ros1Services) ∧
  (∀ name ∈ registry.serviceBridges2To1, name ∉ snapshots.ros1Services →
    name ∉ snapshots.ros2Services)

/-- `f'` differs from `f` at most in what its topic and service bridge constructors do for
names that have an entry in `registry`: the type mappings are the same, and so is every
constructor call for a name without an entry. The removal primitives are left free: a run
again on what a run produced finds no obsolete entry and calls none of them. -/
structure Factories.AgreeOffEntries (registry : Registry H12 H21 S12 S21)
    (f f' : Factories H12 H21 S12 S21) : Prop where
  get1to2Mapping : f'.get1to2Mapping = f.get1to2Mapping
  get2to1Mapping : f'.get2to1Mapping = f.get2to1Mapping
  createBridgeFrom1To2 : ∀ t, t ∉ registry.bridges1to2 → ∀ ros1TypeName ros2TypeName,
    f'.createBridgeFrom1To2 ros1TypeName t ros2TypeName =
      f.createBridgeFrom1To2 ros1TypeName t ros2TypeName
  createBridgeFrom2To1 : ∀ t, t ∉ registry.bridges2to1 → ∀ ros2TypeName ros1TypeName,
    f'.createBridgeFrom2To1 ros2TypeName t ros1TypeName =
      f.createBridgeFrom2To1 ros2TypeName t ros1TypeName
  serviceBridge1To2 : ∀ name, name ∉ registry.serviceBridges1To2 →
    name ∉ registry.serviceBridges2To1 → ∀ domain packageName typeName,
      (f'.getServiceFactory domain packageName typeName).bind (·.serviceBridge1To2 name) =
        (f.getServiceFactory domain packageName typeName).bind (·.serviceBridge1To2 name)
  serviceBridge2To1 : ∀ name, name ∉ registry.serviceBridges1To2 →
    name ∉ registry.serviceBridges2To1 → ∀ domain packageName typeName,
      (f'.getServiceFactory domain packageName typeName).bind (·.serviceBridge2To1 name) =
        (f.getServiceFactory domain packageName typeName).bind (·.serviceBridge2To1 name)

theorem Factories.AgreeOffEntries.refl (registry : Registry H12 H21 S12 S21)
    (f : Factories H12 H21 S12 S21) : f.AgreeOffEntries registry f :=
  ⟨rfl, rfl, fun _ _ _ _ ↦ rfl, fun _ _ _ _ ↦ rfl, fun _ _ _ _ _ _ ↦ rfl,
    fun _ _ _ _ _ _ ↦ rfl⟩

section Again

variable {f f' : Factories H12 H21 S12 S21} {snapshots : Snapshots}
  {registry registry' : Registry H12 H21 S12 S21}

/-- **The service half run again on what it produced does nothing**, unless a name switched
sides. Every listed name is then in a map, or its factory built nothing in the first run and
builds nothing again; no entry is obsolete. -/
theorem updateServiceBridges_again (hns : NoServiceSwitching snapshots registry)
    (h : updateServiceBridges f snapshots registry = some registry')
    (hf : f.AgreeOffEntries registry' f') :
    updateServiceBridges f' snapshots registry' = some registry' := by
  obtain ⟨c21, c12, k21, k12, h21, h12, e21, e12, rfl⟩ := updateServiceBridges_eq_some.1 h
  -- a listed name a map lost was there only before the other direction's loop
  have lost12 : ∀ name, name ∈ snapshots.ros2Services → name ∉ k12 → name ∉ c12 :=
    fun name hs hk hc ↦ hk (mem_eraseObsoleteServices_of_mem e12 hs hc)
  have lost21 : ∀ name, name ∈ snapshots.ros1Services → name ∉ k21 → name ∉ c21 :=
    fun name hs hk hc ↦ hk (mem_eraseObsoleteServices_of_mem e21 hs hc)
  refine updateServiceBridges_eq_some.2 ⟨k21, k12, k21, k12, ?_, ?_,
    eraseObsoleteServices_of_forall_mem fun e he ↦
      mem_services_of_eraseObsoleteServices e21 (AList.mem_keys.2 (List.mem_keys_of_mem he)),
    eraseObsoleteServices_of_forall_mem fun e he ↦
      mem_services_of_eraseObsoleteServices e12 (AList.mem_keys.2 (List.mem_keys_of_mem he)),
    rfl⟩
  · refine createServiceBridges_eq_self fun name details hd ↦ ?_
    by_cases h₁ : name ∈ k21
    · exact Or.inl h₁
    by_cases h₂ : name ∈ k12
    · exact Or.inr (Or.inl h₂)
    have hs : name ∈ snapshots.ros1Services := AList.lookup_isSome.1 (by rw [hd]; rfl)
    have n21 := lost21 name hs h₁
    have old21 : name ∉ registry.serviceBridges2To1 :=
      fun h ↦ n21 (mem_createServiceBridges_of_mem h21 h)
    have old12 : name ∉ registry.serviceBridges1To2 := by
      intro h
      refine hns.1 name h (fun hs2 ↦ h₂ ?_) hs
      exact mem_eraseObsoleteServices_of_mem e12 hs2 (mem_createServiceBridges_of_mem h12 h)
    obtain ⟨hp, hb⟩ := unbuilt_of_createServiceBridges h21 hd old21 old12 n21
    refine Or.inr (Or.inr ⟨hp, ?_⟩)
    simpa only [buildServiceBridge, hf.serviceBridge2To1 name h₂ h₁] using hb
  · refine createServiceBridges_eq_self fun name details hd ↦ ?_
    by_cases h₂ : name ∈ k12
    · exact Or.inl h₂
    by_cases h₁ : name ∈ k21
    · exact Or.inr (Or.inl h₁)
    have hs : name ∈ snapshots.ros2Services := AList.lookup_isSome.1 (by rw [hd]; rfl)
    have n12 := lost12 name hs h₂
    have old12 : name ∉ registry.serviceBridges1To2 :=
      fun h ↦ n12 (mem_createServiceBridges_of_mem h12 h)
    have mid21 : name ∉ c21 := by
      intro h
      have hs1 : name ∉ snapshots.ros1Services :=
        fun hs1 ↦ h₁ (mem_eraseObsoleteServices_of_mem e21 hs1 h)
      have old21 : name ∈ registry.serviceBridges2To1 := by
        rw [← AList.lookup_isSome, ← lookup_createServiceBridges_of_not_mem h21 hs1]
        exact AList.lookup_isSome.2 h
      exact hns.2 name old21 hs1 hs
    obtain ⟨hp, hb⟩ := unbuilt_of_createServiceBridges h12 hd old12 mid21 n12
    refine Or.inr (Or.inr ⟨hp, ?_⟩)
    simpa only [buildServiceBridge, hf.serviceBridge1To2 name h₂ h₁] using hb

end Again

/-- **`update_bridge` run again on what it produced changes nothing, and calls no
constructor for a name that has an entry**, provided no service name has switched sides
(`NoServiceSwitching`): with the same snapshots, the second call returns the same registries
for every `f'` that differs from `f` only in what its constructors do for names with an
entry. -/
theorem updateBridge_idempotent (cfg : BridgeConfig ρ) (f f' : Factories H12 H21 S12 S21)
    (snapshots : Snapshots) (registry registry' : Registry H12 H21 S12 S21)
    (hns : NoServiceSwitching snapshots registry)
    (h : updateBridge cfg f snapshots registry = some registry')
    (hf : f.AgreeOffEntries registry' f') :
    updateBridge cfg f' snapshots registry' = some registry' := by
  obtain ⟨hb1, hb2⟩ := updateBridge_topics h
  rw [updateBridge, updateTopicBridges_again hb1 hb2 hf.get1to2Mapping hf.get2to1Mapping
    hf.createBridgeFrom1To2 hf.createBridgeFrom2To1]
  exact updateServiceBridges_again
    (show NoServiceSwitching snapshots (updateTopicBridges cfg f snapshots registry) from hns) h hf

/-- Registries holding one service bridge, 2-to-1 for `/s`. -/
def srvBridged2To1 : Registry Unit Unit Unit Unit :=
  ⟨∅, ∅, ∅, (∅ : StrMap Unit).insert "/s" ()⟩

/-- Registries holding one service bridge, 1-to-2 for `/s`. -/
def srvBridged1To2 : Registry Unit Unit Unit Unit :=
  ⟨∅, ∅, (∅ : StrMap Unit).insert "/s" (), ∅⟩

/-- A first call creates the 2-to-1 bridge of `/s`; a second call leaves it. -/
theorem updateBridge_idempotent_creating :
    NoServiceSwitching srvOnRos1 (Registry.empty : Registry Unit Unit Unit Unit) ∧
      updateBridge openConfig serviceFactories srvOnRos1 Registry.empty = some srvBridged2To1 ∧
      updateBridge openConfig serviceFactories srvOnRos1 srvBridged2To1 =
        some srvBridged2To1 :=
  have hns : NoServiceSwitching srvOnRos1 (Registry.empty : Registry Unit Unit Unit Unit) :=
    ⟨fun _ h ↦ absurd h (AList.not_mem_empty _), fun _ h ↦ absurd h (AList.not_mem_empty _)⟩
  ⟨hns, rfl, updateBridge_idempotent openConfig serviceFactories serviceFactories _ _ _ hns rfl
    (.refl _ _)⟩

/-- **A name that switched sides breaks idempotence.** `/s` is bridged 1-to-2 while only
`ros1_services` lists it: the first call removes the 1-to-2 bridge, the second bridges `/s`
2-to-1. -/
theorem updateBridge_switching_not_idempotent :
    updateBridge openConfig serviceFactories srvOnRos1 srvBridged1To2 = some Registry.empty ∧
      updateBridge openConfig serviceFactories srvOnRos1 Registry.empty =
        some srvBridged2To1 :=
  ⟨rfl, rfl⟩

end WhitelistBridge
