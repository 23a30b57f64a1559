import WhitelistBridge.Whitelist
import WhitelistBridge.ServiceInfo
import WhitelistBridge.ServicePass

/-!
# The ROS 2 poller

Every second `ros2_poll` reads the topics and the services of the ROS 2 graph with their
types and turns them into the three ROS 2 snapshots:

* a topic other than `parameter_events` that lists exactly one type and that the topic
  whitelist admits is a publisher (subscriber) entry when it has a publisher (subscriber),
  not counting the one the bridge holds for a topic it bridges (`collectRos2Topics`);
* a service that lists exactly one type, that the service whitelist admits and whose type
  holds a `/` gets an entry with the type's package and name (`collectRos2Services`).

Like the ROS 1 poller it keeps its caches and its ignored sets across cycles, but a name that
lists several types also joins the ignored set, and an ignored name is skipped before it is
checked again: once a topic or a service has listed two types it is never bridged again, even
when it later lists one (`Ros2PollerState.Sound` only constrains the caches).
`lookup_collectRos2Topics` and `lookup_collectRos2Services` state the snapshots key by key,
with `ros2TopicEntry` and `ros2ServiceSplit` reading the ignored set the cycle starts with;
`mem_collectRos2Topics_alreadyIgnoredTopics` and `mem_collectRos2Services_alreadyIgnoredServices`
state the ignored sets the cycle leaves.

The model reads the graph of one cycle as the input `Ros2Graph`, and the topic registries the
loop reads to discount the bridge's own endpoints as arguments.
-/

namespace WhitelistBridge

variable {ρ α β : Type}

/-- The types the ROS 2 graph lists for one name. The graph lists a name with the types of its
endpoints, so the list is never empty and `second[0]` is defined. -/
structure AdvertisedTypes where
  /-- The types, in the graph's order. -/
  types : List String
  types_ne_nil : types ≠ []

/-- `second[0]`, the type the poller takes. -/
def AdvertisedTypes.first (a : AdvertisedTypes) : String := a.types.head a.types_ne_nil

/-- What `ros2_poll` reads from the ROS 2 graph in one cycle. -/
structure Ros2Graph where
  /-- `get_topic_names_and_types()`. -/
  topicNamesAndTypes : StrMap AdvertisedTypes
  /-- `count_publishers(topic_name)`. -/
  countPublishers : String → Nat
  /-- `count_subscribers(topic_name)`. -/
  countSubscribers : String → Nat
  /-- `get_service_names_and_types()`. -/
  serviceNamesAndTypes : StrMap AdvertisedTypes

/-- The sets `ros2_poll` keeps across cycles. -/
structure Ros2PollerState where
  /-- `already_ignored_topics`. -/
  alreadyIgnoredTopics : List String
  /-- `already_ignored_services`. -/
  alreadyIgnoredServices : List String
  /-- `valid_ros2_topics`, the cache of the topic checks. -/
  validRos2Topics : List String
  /-- `valid_ros2_services`, the cache of the service checks. -/
  validRos2Services : List String

/-- The sets as the program starts. -/
def Ros2PollerState.empty : Ros2PollerState := ⟨[], [], [], []⟩

/-- `ignored_topics`. -/
def ignoredTopics : List String := ["parameter_events"]

/-! ### Topics -/

/-- One topic of the loop over `ros2_topics`; `bridges1to2` and `bridges2to1` are read to
discount the publisher and the subscriber the bridge holds itself. -/
def checkRos2Topic (cfg : BridgeConfig ρ) (graph : Ros2Graph) (bridges1to2 : StrMap α)
    (bridges2to1 : StrMap β) (acc : Ros2PollerState × StrMap String × StrMap String)
    (topic : Σ _ : String, AdvertisedTypes) : Ros2PollerState × StrMap String × StrMap String :=
  let (st, pubs, subs) := acc
  let topicName := topic.1
  let topicType := topic.2.first
  if topicName ∈ ignoredTopics then acc
  else if topic.2.types.length > 1 then
    if topicName ∉ st.alreadyIgnoredTopics then
      ({ st with alreadyIgnoredTopics := st.alreadyIgnoredTopics.insert topicName }, pubs, subs)
    else acc
  else if topicName ∉ st.alreadyIgnoredTopics then
    let (ok, valid) :=
      checkInregexList cfg.regexMatch cfg.topicRegexList topicName st.validRos2Topics
    if !ok then
      ({ st with
        validRos2Topics := valid,
        alreadyIgnoredTopics := st.alreadyIgnoredTopics.insert topicName }, pubs, subs)
    else
      let publisherCount := graph.countPublishers topicName
      let subscriberCount := graph.countSubscribers topicName
      let publisherCount :=
        if topicName ∈ bridges1to2 then
          if publisherCount > 0 then publisherCount - 1 else publisherCount
        else publisherCount
      let subscriberCount :=
        if topicName ∈ bridges2to1 then
          if subscriberCount > 0 then subscriberCount - 1 else subscriberCount
        else subscriberCount
      ({ st with validRos2Topics := valid },
        if publisherCount ≠ 0 then pubs.insert topicName topicType else pubs,
        if subscriberCount ≠ 0 then subs.insert topicName topicType else subs)
  else acc

/-- `current_ros2_publishers` and `current_ros2_subscribers`, with the sets after the loop. -/
def collectRos2Topics (cfg : BridgeConfig ρ) (graph : Ros2Graph) (bridges1to2 : StrMap α)
    (bridges2to1 : StrMap β) (st : Ros2PollerState) :
    Ros2PollerState × StrMap String × StrMap String :=
  graph.topicNamesAndTypes.entries.foldl (checkRos2Topic cfg graph bridges1to2 bridges2to1)
    (st, ∅, ∅)

/-! ### Services -/

/-- One service of the loop over `ros2_services_and_types`. -/
def checkRos2Service (cfg : BridgeConfig ρ) (acc : Ros2PollerState × StrMap ServiceDetails)
    (service : Σ _ : String, AdvertisedTypes) : Ros2PollerState × StrMap ServiceDetails :=
  let (st, services) := acc
  let serviceName := service.1
  let serviceType := service.2.first
  if service.2.types.length > 1 then
    if serviceName ∉ st.alreadyIgnoredServices then
      ({ st with alreadyIgnoredServices := st.alreadyIgnoredServices.insert serviceName },
        services)
    else acc
  else if serviceName ∉ st.alreadyIgnoredServices then
    let (ok, valid) :=
      checkInregexList cfg.regexMatch cfg.serviceRegexList serviceName st.validRos2Services
    if !ok then
      ({ st with
        validRos2Services := valid,
        alreadyIgnoredServices := st.alreadyIgnoredServices.insert serviceName }, services)
    else
      match findSlash serviceType with
      | none => ({ st with validRos2Services := valid }, services)
      | some pos =>
        let details := (services.lookup serviceName).getD ∅
        ({ st with validRos2Services := valid },
          services.insert serviceName
            ((details.insert "package" ⟨serviceType.data.take pos⟩).insert "name"
              ⟨serviceType.data.drop (pos + 1)⟩))
  else acc

/-- `active_ros2_services`, with the sets after the loop. -/
def collectRos2Services (cfg : BridgeConfig ρ) (graph : Ros2Graph) (st : Ros2PollerState) :
    Ros2PollerState × StrMap ServiceDetails :=
  graph.serviceNamesAndTypes.entries.foldl (checkRos2Service cfg) (st, ∅)

/-! ### The poller's caches -/

/-- **What the poller's caches hold**: only names their whitelist admits. The ignored sets have
no such law: a name that listed several types is ignored whether or not it is admitted. -/
structure Ros2PollerState.Sound (cfg : BridgeConfig ρ) (st : Ros2PollerState) : Prop where
  validRos2Topics : CacheSound cfg.regexMatch cfg.topicRegexList st.validRos2Topics
  validRos2Services : CacheSound cfg.regexMatch cfg.serviceRegexList st.validRos2Services

theorem Ros2PollerState.sound_empty (cfg : BridgeConfig ρ) : Ros2PollerState.empty.Sound cfg :=
  ⟨nofun, nofun⟩

/-! ### What the topic loop publishes -/

/-- The type the topic loop records for `topic` in a snapshot, when the cycle starts with the
ignored set `ignored`: nothing for `parameter_events`, for a topic that lists several types,
for an ignored topic and for one the whitelist does not admit; otherwise the topic's first type,
when its count of publishers (or subscribers), less the bridge's own when `held`, is positive. -/
def ros2TopicEntry (cfg : BridgeConfig ρ) (ignored : List String) (held : Bool) (count : Nat)
    (topic : Σ _ : String, AdvertisedTypes) : Option String :=
  if topic.1 ∉ ignoredTopics ∧ topic.2.types.length ≤ 1 ∧ topic.1 ∉ ignored ∧
      Admits cfg.regexMatch cfg.topicRegexList topic.1 ∧ (if held then count - 1 else count) ≠ 0
  then some topic.2.first else none

section TopicEntry

variable {cfg : BridgeConfig ρ} {ignored : List String} {held : Bool} {count : Nat}
  {topic : Σ _ : String, AdvertisedTypes}

/-- The entry reads the ignored set only at the topic's own name. -/
theorem ros2TopicEntry_congr {ignored' : List String}
    (h : topic.1 ∈ ignored ↔ topic.1 ∈ ignored') :
    ros2TopicEntry cfg ignored held count topic = ros2TopicEntry cfg ignored' held count topic := by
  simp only [ros2TopicEntry, h]

/-- Only a topic the whitelist admits gets an entry. -/
theorem admits_of_ros2TopicEntry_eq_some {v : String}
    (h : ros2TopicEntry cfg ignored held count topic = some v) :
    Admits cfg.regexMatch cfg.topicRegexList topic.1 := by
  rw [ros2TopicEntry] at h
  by_contra hn
  rw [if_neg fun hc ↦ hn hc.2.2.2.1] at h
  cases h

end TopicEntry

/-- A loop that writes each topic's entry into a snapshot. -/
def writeRos2Topics (cfg : BridgeConfig ρ) (ignored : List String) (held : String → Bool)
    (count : String → Nat) (m : StrMap String) (topic : Σ _ : String, AdvertisedTypes) :
    StrMap String :=
  (ros2TopicEntry cfg ignored (held topic.1) (count topic.1) topic).elim m (m.insert topic.1 ·)

theorem writeRos2Topics_pointwise (cfg : BridgeConfig ρ) (ignored : List String)
    (held : String → Bool) (count : String → Nat) :
    Pointwise (writeRos2Topics cfg ignored held count)
      (fun k types old ↦ (ros2TopicEntry cfg ignored (held k) (count k) ⟨k, types⟩).or old) := by
  rintro m ⟨t, types⟩ k
  simp only [writeRos2Topics]
  rcases ros2TopicEntry cfg ignored (held t) (count t) ⟨t, types⟩ with _ | v
  · simp
  · by_cases hk : k = t
    · subst hk
      simp [AList.lookup_insert]
    · simp [hk, AList.lookup_insert_ne hk]

/-- Whether a visit of the topic loop puts `topic` in the ignored set (when it is not there
already): a topic other than `parameter_events` that lists several types or that the whitelist
does not admit. -/
def ignoresTopic (cfg : BridgeConfig ρ) (topic : Σ _ : String, AdvertisedTypes) : Prop :=
  topic.1 ∉ ignoredTopics ∧
    (1 < topic.2.types.length ∨ ¬Admits cfg.regexMatch cfg.topicRegexList topic.1)

instance (cfg : BridgeConfig ρ) (topic : Σ _ : String, AdvertisedTypes) :
    Decidable (ignoresTopic cfg topic) :=
  inferInstanceAs (Decidable (topic.1 ∉ ignoredTopics ∧
    (1 < topic.2.types.length ∨ ¬Admits cfg.regexMatch cfg.topicRegexList topic.1)))

/-- An ignored topic, or one the cycle ignores, gets no entry. -/
theorem ros2TopicEntry_eq_none {cfg : BridgeConfig ρ} {ignored : List String} {held : Bool}
    {count : Nat} {topic : Σ _ : String, AdvertisedTypes}
    (h : topic.1 ∈ ignored ∨ ignoresTopic cfg topic) :
    ros2TopicEntry cfg ignored held count topic = none := by
  rw [ros2TopicEntry, if_neg]
  rintro ⟨-, hlen, hign, hadm, -⟩
  rcases h with h | ⟨-, h | h⟩
  exacts [hign h, by omega, h hadm]

section TopicSnapshots

variable {cfg : BridgeConfig ρ} (graph : Ros2Graph) (bridges1to2 : StrMap α)
  (bridges2to1 : StrMap β)

/-- **One topic of the loop**: it keeps the caches sound, adds its own name to the ignored set
exactly when the loop ignores it (`ignoresTopic`), and writes each snapshot with its entry. -/
theorem checkRos2Topic_spec {acc : Ros2PollerState × StrMap String × StrMap String}
    (hs : acc.1.Sound cfg) (topic : Σ _ : String, AdvertisedTypes) :
    (checkRos2Topic cfg graph bridges1to2 bridges2to1 acc topic).1.Sound cfg ∧
    (∀ k, k ∈ (checkRos2Topic cfg graph bridges1to2 bridges2to1 acc topic).1.alreadyIgnoredTopics ↔
        k ∈ acc.1.alreadyIgnoredTopics ∨ (k = topic.1 ∧ ignoresTopic cfg topic)) ∧
    (checkRos2Topic cfg graph bridges1to2 bridges2to1 acc topic).2.1 =
      writeRos2Topics cfg acc.1.alreadyIgnoredTopics (· ∈ bridges1to2) graph.countPublishers
        acc.2.1 topic ∧
    (checkRos2Topic cfg graph bridges1to2 bridges2to1 acc topic).2.2 =
      writeRos2Topics cfg acc.1.alreadyIgnoredTopics (· ∈ bridges2to1) graph.countSubscribers
        acc.2.2 topic := by
  obtain ⟨st, pubs, subs⟩ := acc
  have hok : (checkInregexList cfg.regexMatch cfg.topicRegexList topic.1 st.validRos2Topics).1
      = true ↔ _ := checkInregexList_eq_true_iff hs.validRos2Topics
  have hvalid : Ros2PollerState.Sound cfg { st with validRos2Topics :=
      (checkInregexList cfg.regexMatch cfg.topicRegexList topic.1 st.validRos2Topics).2 } :=
    ⟨checkInregexList_cacheSound hs.validRos2Topics, hs.2⟩
  simp only [writeRos2Topics, ros2TopicEntry]
  dsimp only [checkRos2Topic]
  by_cases h₁ : topic.1 ∈ ignoredTopics
  · simp [h₁, ignoresTopic, hs]
  rw [if_neg h₁]
  by_cases h₂ : topic.2.types.length > 1
  · -- several types: no entry, and newly ignored unless ignored already
    have hlen : ¬topic.2.types.length ≤ 1 := by omega
    rw [if_pos h₂]
    simp only [hlen, false_and, and_false, if_false, Option.elim]
    split_ifs with h₃
    · exact ⟨hs, mem_iff_or_of_imp fun _ ↦ h₃, rfl, rfl⟩
    · exact ⟨⟨hs.1, hs.2⟩, mem_insert_iff_or_of ⟨h₁, .inl h₂⟩, rfl, rfl⟩
  rw [if_neg h₂]
  have hlen : topic.2.types.length ≤ 1 := by omega
  by_cases h₃ : topic.1 ∈ st.alreadyIgnoredTopics
  · rw [if_neg (not_not.2 h₃)]
    refine ⟨hs, mem_iff_or_of_imp fun _ ↦ h₃, ?_, ?_⟩ <;> simp [h₃]
  rw [if_pos h₃]
  by_cases h₄ : (checkInregexList cfg.regexMatch cfg.topicRegexList topic.1 st.validRos2Topics).1
  · -- admitted: the entry is written when the count is positive
    have h₅ : ∀ c, (if c > 0 then c - 1 else c) = c - 1 := fun c ↦ by split_ifs <;> omega
    rw [if_neg (by simp [h₄])]
    simp only [h₁, hlen, h₃, hok.1 h₄, h₅, not_false_eq_true, true_and, decide_eq_true_eq]
    refine ⟨hvalid,
      mem_iff_or_of_imp fun h ↦ (h.2.elim (fun _ ↦ by omega) fun h ↦ h (hok.1 h₄)).elim,
      ?_, ?_⟩ <;> split_ifs <;> rfl
  · -- rejected: no entry, and newly ignored
    rw [if_pos (by simpa using h₄)]
    simp only [mt hok.2 h₄, false_and, and_false, if_false, Option.elim]
    exact ⟨⟨hvalid.1, hs.2⟩, mem_insert_iff_or_of ⟨h₁, .inr (mt hok.2 h₄)⟩, trivial, trivial⟩

/-- The topic loop keeps the caches sound. -/
theorem collectRos2Topics_sound {st : Ros2PollerState} (hs : st.Sound cfg) :
    (collectRos2Topics cfg graph bridges1to2 bridges2to1 st).1.Sound cfg :=
  List.foldlRecOn (motive := fun acc : Ros2PollerState × StrMap String × StrMap String ↦
      acc.1.Sound cfg) _ _ _ hs
    fun _ h topic _ ↦ (checkRos2Topic_spec graph bridges1to2 bridges2to1 h topic).1

/-- **What the ROS 2 topic loop publishes, topic by topic**: a topic's entry in each snapshot is
the one `ros2TopicEntry` computes from the ignored set the cycle starts with; a topic the graph
does not list has none. -/
theorem lookup_collectRos2Topics {st : Ros2PollerState} (hs : st.Sound cfg) (t : String) :
    (collectRos2Topics cfg graph bridges1to2 bridges2to1 st).2.1.lookup t =
        (graph.topicNamesAndTypes.lookup t).bind (fun types ↦ ros2TopicEntry cfg
          st.alreadyIgnoredTopics (decide (t ∈ bridges1to2)) (graph.countPublishers t)
          ⟨t, types⟩) ∧
      (collectRos2Topics cfg graph bridges1to2 bridges2to1 st).2.2.lookup t =
        (graph.topicNamesAndTypes.lookup t).bind (fun types ↦ ros2TopicEntry cfg
          st.alreadyIgnoredTopics (decide (t ∈ bridges2to1)) (graph.countSubscribers t)
          ⟨t, types⟩) := by
  have hloop := foldl_snd_eq_of_local Ros2PollerState.alreadyIgnoredTopics
    (fun acc ↦ acc.1.Sound cfg) (checkRos2Topic cfg graph bridges1to2 bridges2to1)
    (fun i m e ↦ (writeRos2Topics cfg i (· ∈ bridges1to2) graph.countPublishers m.1 e,
      writeRos2Topics cfg i (· ∈ bridges2to1) graph.countSubscribers m.2 e))
    (fun _ e hs ↦ have h := checkRos2Topic_spec graph bridges1to2 bridges2to1 hs e
      ⟨h.1, fun k hk ↦ (h.2.1 k).trans (or_iff_left fun h ↦ hk h.1), Prod.ext h.2.2.1 h.2.2.2⟩)
    (fun _ _ _ _ h ↦ by simp only [writeRos2Topics, ros2TopicEntry_congr h])
    graph.topicNamesAndTypes.entries (st, ∅, ∅) graph.topicNamesAndTypes.nodupKeys hs
    fun _ _ ↦ Iff.rfl
  simp only [collectRos2Topics, hloop, foldl_prod]
  rw [lookup_foldl_of_pointwise (writeRos2Topics_pointwise _ _ _ _),
    lookup_foldl_of_pointwise (writeRos2Topics_pointwise _ _ _ _)]
  rcases graph.topicNamesAndTypes.lookup t with _ | types <;> simp

/-- **The ROS 2 topic snapshots hold only admitted topics**, and the caches stay sound. -/
theorem collectRos2Topics_spec {st : Ros2PollerState} (hs : st.Sound cfg) :
    (collectRos2Topics cfg graph bridges1to2 bridges2to1 st).1.Sound cfg ∧
      (∀ t ∈ (collectRos2Topics cfg graph bridges1to2 bridges2to1 st).2.1,
        Admits cfg.regexMatch cfg.topicRegexList t) ∧
      ∀ t ∈ (collectRos2Topics cfg graph bridges1to2 bridges2to1 st).2.2,
        Admits cfg.regexMatch cfg.topicRegexList t := by
  have admits : ∀ t held count, ((graph.topicNamesAndTypes.lookup t).bind fun types ↦
      ros2TopicEntry cfg st.alreadyIgnoredTopics held count ⟨t, types⟩).isSome →
      Admits cfg.regexMatch cfg.topicRegexList t := fun t _ _ h ↦ by
    obtain ⟨_, hv⟩ := Option.isSome_iff_exists.1 h
    obtain ⟨_, -, he⟩ := Option.bind_eq_some.1 hv
    exact admits_of_ros2TopicEntry_eq_some he
  refine ⟨collectRos2Topics_sound graph bridges1to2 bridges2to1 hs, fun t ht ↦ ?_, fun t ht ↦ ?_⟩
  · rw [← AList.lookup_isSome, (lookup_collectRos2Topics graph _ _ hs t).1] at ht
    exact admits t _ _ ht
  · rw [← AList.lookup_isSome, (lookup_collectRos2Topics graph _ _ hs t).2] at ht
    exact admits t _ _ ht

/-- **Which topics the poller ignores after the topic loop**: those it ignored before, and the
listed topics that the loop ignores (`ignoresTopic`). -/
theorem mem_collectRos2Topics_alreadyIgnoredTopics {st : Ros2PollerState} (hs : st.Sound cfg)
    (k : String) :
    k ∈ (collectRos2Topics cfg graph bridges1to2 bridges2to1 st).1.alreadyIgnoredTopics ↔
      k ∈ st.alreadyIgnoredTopics ∨
        ∃ types, graph.topicNamesAndTypes.lookup k = some types ∧ ignoresTopic cfg ⟨k, types⟩ :=
  (mem_foldl_of_adds Ros2PollerState.alreadyIgnoredTopics (fun acc ↦ acc.1.Sound cfg)
    (checkRos2Topic cfg graph bridges1to2 bridges2to1) (ignoresTopic cfg)
    (fun _ e hs ↦ have h := checkRos2Topic_spec graph bridges1to2 bridges2to1 hs e
      ⟨h.1, h.2.1⟩)
    k graph.topicNamesAndTypes.entries (st, ∅, ∅) hs).trans
    (or_congr_right exists_mem_entries_iff)

/-- **A topic the poller ignores after the topic loop has no entry in its snapshots**, whether
it was ignored before or the loop ignored it. -/
theorem not_mem_collectRos2Topics_of_ignored {st : Ros2PollerState} (hs : st.Sound cfg)
    {t : String}
    (ht : t ∈ (collectRos2Topics cfg graph bridges1to2 bridges2to1 st).1.alreadyIgnoredTopics) :
    t ∉ (collectRos2Topics cfg graph bridges1to2 bridges2to1 st).2.1 ∧
      t ∉ (collectRos2Topics cfg graph bridges1to2 bridges2to1 st).2.2 := by
  obtain ⟨hpub, hsub⟩ := lookup_collectRos2Topics graph bridges1to2 bridges2to1 hs t
  rw [← AList.lookup_eq_none, ← AList.lookup_eq_none, hpub, hsub]
  rcases hl : graph.topicNamesAndTypes.lookup t with _ | types
  · exact ⟨rfl, rfl⟩
  have h : t ∈ st.alreadyIgnoredTopics ∨ ignoresTopic cfg ⟨t, types⟩ := by
    rcases (mem_collectRos2Topics_alreadyIgnoredTopics graph bridges1to2 bridges2to1 hs t).1 ht
      with h | ⟨types', hl', h⟩
    · exact .inl h
    · rw [hl, Option.some.injEq] at hl'
      exact .inr (hl' ▸ h)
  exact ⟨ros2TopicEntry_eq_none h, ros2TopicEntry_eq_none h⟩

/-- The topic loop leaves the ignored services alone. -/
theorem collectRos2Topics_alreadyIgnoredServices (st : Ros2PollerState) :
    (collectRos2Topics cfg graph bridges1to2 bridges2to1 st).1.alreadyIgnoredServices =
      st.alreadyIgnoredServices :=
  List.foldlRecOn (motive := fun acc : Ros2PollerState × StrMap String × StrMap String ↦
      acc.1.alreadyIgnoredServices = st.alreadyIgnoredServices) _ _ _ rfl
    fun acc h topic _ ↦ by
      dsimp only [checkRos2Topic]
      simp only [apply_ite Prod.fst, apply_ite Ros2PollerState.alreadyIgnoredServices, ite_self, h]

end TopicSnapshots

/-! ### What the service loop publishes -/

/-- Where the service loop splits a service's type, when the cycle starts with the ignored set
`ignored`: nowhere for a service that lists several types, for an ignored service, for one the
whitelist does not admit and for a type without `/`; otherwise at the type's first `/`. -/
def ros2ServiceSplit (cfg : BridgeConfig ρ) (ignored : List String)
    (service : Σ _ : String, AdvertisedTypes) : Option Nat :=
  if service.2.types.length ≤ 1 ∧ service.1 ∉ ignored ∧
      Admits cfg.regexMatch cfg.serviceRegexList service.1
  then findSlash service.2.first else none

/-- Only a service the whitelist admits is split. -/
theorem admits_of_ros2ServiceSplit_eq_some {cfg : BridgeConfig ρ} {ignored : List String}
    {service : Σ _ : String, AdvertisedTypes} {pos : Nat}
    (h : ros2ServiceSplit cfg ignored service = some pos) :
    Admits cfg.regexMatch cfg.serviceRegexList service.1 := by
  unfold ros2ServiceSplit at h
  split_ifs at h with hc
  exact hc.2.2

/-- `details["package"]` and `details["name"]` set from the type `t` split at `pos`. -/
def setPackageAndName (details : ServiceDetails) (t : String) (pos : Nat) : ServiceDetails :=
  (details.insert "package" ⟨t.data.take pos⟩).insert "name" ⟨t.data.drop (pos + 1)⟩

/-- A split entry carries its package and its name. -/
theorem setPackageAndName_complete (details : ServiceDetails) (t : String) (pos : Nat) :
    ((setPackageAndName details t pos).lookup "package").isSome ∧
      ((setPackageAndName details t pos).lookup "name").isSome := by
  simp [setPackageAndName, AList.lookup_insert, AList.lookup_insert_ne]

/-- A loop that writes each service's entry into the snapshot, over the entry already there. -/
def writeRos2Services (cfg : BridgeConfig ρ) (ignored : List String)
    (m : StrMap ServiceDetails) (service : Σ _ : String, AdvertisedTypes) :
    StrMap ServiceDetails :=
  (ros2ServiceSplit cfg ignored service).elim m fun pos ↦
    m.insert service.1 (setPackageAndName ((m.lookup service.1).getD ∅) service.2.first pos)

theorem writeRos2Services_pointwise (cfg : BridgeConfig ρ) (ignored : List String) :
    Pointwise (writeRos2Services cfg ignored) (fun k types old ↦
      (ros2ServiceSplit cfg ignored ⟨k, types⟩).elim old
        fun pos ↦ some (setPackageAndName (old.getD ∅) types.first pos)) := by
  rintro m ⟨n, types⟩ k
  simp only [writeRos2Services]
  rcases ros2ServiceSplit cfg ignored ⟨n, types⟩ with _ | pos
  · simp
  · by_cases hk : k = n
    · subst hk
      simp [AList.lookup_insert]
    · simp [hk, AList.lookup_insert_ne hk]

/-- Whether a visit of the service loop puts `service` in the ignored set (when it is not there
already): a service that lists several types or that the whitelist does not admit. -/
def ignoresService (cfg : BridgeConfig ρ) (service : Σ _ : String, AdvertisedTypes) : Prop :=
  1 < service.2.types.length ∨ ¬Admits cfg.regexMatch cfg.serviceRegexList service.1

instance (cfg : BridgeConfig ρ) (service : Σ _ : String, AdvertisedTypes) :
    Decidable (ignoresService cfg service) :=
  inferInstanceAs (Decidable
    (1 < service.2.types.length ∨ ¬Admits cfg.regexMatch cfg.serviceRegexList service.1))

/-- An ignored service, or one the cycle ignores, is not split. -/
theorem ros2ServiceSplit_eq_none {cfg : BridgeConfig ρ} {ignored : List String}
    {service : Σ _ : String, AdvertisedTypes}
    (h : service.1 ∈ ignored ∨ ignoresService cfg service) :
    ros2ServiceSplit cfg ignored service = none := by
  rw [ros2ServiceSplit, if_neg]
  rintro ⟨hlen, hign, hadm⟩
  rcases h with h | h | h
  exacts [hign h, by omega, h hadm]

section ServiceSnapshot

variable {cfg : BridgeConfig ρ}

/-- **One service of the loop**: it keeps the caches sound, adds its own name to the ignored
set exactly when the loop ignores it (`ignoresService`), and writes the snapshot with its
entry. -/
theorem checkRos2Service_spec {acc : Ros2PollerState × StrMap ServiceDetails}
    (hs : acc.1.Sound cfg) (service : Σ _ : String, AdvertisedTypes) :
    (checkRos2Service cfg acc service).1.Sound cfg ∧
    (∀ k, k ∈ (checkRos2Service cfg acc service).1.alreadyIgnoredServices ↔
        k ∈ acc.1.alreadyIgnoredServices ∨ (k = service.1 ∧ ignoresService cfg service)) ∧
    (checkRos2Service cfg acc service).2 =
      writeRos2Services cfg acc.1.alreadyIgnoredServices acc.2 service := by
  obtain ⟨st, services⟩ := acc
  have hok : (checkInregexList cfg.regexMatch cfg.serviceRegexList service.1
      st.validRos2Services).1 = true ↔ _ := checkInregexList_eq_true_iff hs.validRos2Services
  have hvalid : Ros2PollerState.Sound cfg { st with validRos2Services :=
      (checkInregexList cfg.regexMatch cfg.serviceRegexList service.1 st.validRos2Services).2 } :=
    ⟨hs.1, checkInregexList_cacheSound hs.validRos2Services⟩
  simp only [writeRos2Services, ros2ServiceSplit]
  dsimp only [checkRos2Service]
  by_cases h₁ : service.2.types.length > 1
  · -- several types: no entry, and newly ignored unless ignored already
    have hlen : ¬service.2.types.length ≤ 1 := by omega
    rw [if_pos h₁]
    simp only [hlen, false_and, if_false, Option.elim]
    split_ifs with h₂
    · exact ⟨hs, mem_iff_or_of_imp fun _ ↦ h₂, rfl⟩
    · exact ⟨⟨hs.1, hs.2⟩, mem_insert_iff_or_of (.inl h₁), rfl⟩
  rw [if_neg h₁]
  have hlen : service.2.types.length ≤ 1 := by omega
  by_cases h₂ : service.1 ∈ st.alreadyIgnoredServices
  · rw [if_neg (not_not.2 h₂)]
    exact ⟨hs, mem_iff_or_of_imp fun _ ↦ h₂, by simp [h₂]⟩
  rw [if_pos h₂]
  by_cases h₃ : (checkInregexList cfg.regexMatch cfg.serviceRegexList service.1
      st.validRos2Services).1
  · -- admitted: the entry is split at the first `/`
    rw [if_neg (by simp [h₃])]
    simp only [hlen, h₂, hok.1 h₃, not_false_eq_true, and_self, if_true]
    have hkeep : ∀ k, k ∈ st.alreadyIgnoredServices ↔
        k ∈ st.alreadyIgnoredServices ∨ (k = service.1 ∧ ignoresService cfg service) :=
      mem_iff_or_of_imp fun h ↦ (h.elim (fun _ ↦ by omega) fun h ↦ h (hok.1 h₃)).elim
    rcases findSlash service.2.first with _ | pos <;> exact ⟨hvalid, hkeep, rfl⟩
  · -- rejected: no entry, and newly ignored
    rw [if_pos (by simpa using h₃)]
    simp only [mt hok.2 h₃, false_and, and_false, if_false, Option.elim]
    exact ⟨⟨hs.1, hvalid.2⟩, mem_insert_iff_or_of (.inr (mt hok.2 h₃)), trivial⟩

/-- The service loop keeps the caches sound. -/
theorem collectRos2Services_sound {st : Ros2PollerState} (hs : st.Sound cfg) (graph : Ros2Graph) :
    (collectRos2Services cfg graph st).1.Sound cfg :=
  List.foldlRecOn (motive := fun acc : Ros2PollerState × StrMap ServiceDetails ↦
      acc.1.Sound cfg) _ _ _ hs fun _ h service _ ↦ (checkRos2Service_spec h service).1

/-- **What the ROS 2 service loop publishes, service by service**: a service the loop splits
gets exactly its package and name, split where `ros2ServiceSplit` says from the ignored set the
cycle starts with; every other service has no entry. -/
theorem lookup_collectRos2Services {st : Ros2PollerState} (hs : st.Sound cfg) (graph : Ros2Graph)
    (n : String) :
    (collectRos2Services cfg graph st).2.lookup n =
      (graph.serviceNamesAndTypes.lookup n).bind fun types ↦
        (ros2ServiceSplit cfg st.alreadyIgnoredServices ⟨n, types⟩).map
          (setPackageAndName ∅ types.first) := by
  have hloop := foldl_snd_eq_of_local Ros2PollerState.alreadyIgnoredServices
    (fun acc ↦ acc.1.Sound cfg) (checkRos2Service cfg) (writeRos2Services cfg)
    (fun _ e hs ↦ have h := checkRos2Service_spec hs e
      ⟨h.1, fun k hk ↦ (h.2.1 k).trans (or_iff_left fun h ↦ hk h.1), h.2.2⟩)
    (fun _ _ _ e h ↦ by simp only [writeRos2Services, ros2ServiceSplit, h])
    graph.serviceNamesAndTypes.entries (st, ∅) graph.serviceNamesAndTypes.nodupKeys hs
    fun _ _ ↦ Iff.rfl
  rw [collectRos2Services, hloop, lookup_foldl_of_pointwise (writeRos2Services_pointwise _ _)]
  rcases graph.serviceNamesAndTypes.lookup n with _ | types
  · rfl
  · simp only [Option.some_bind, AList.lookup_empty]
    rcases ros2ServiceSplit cfg st.alreadyIgnoredServices ⟨n, types⟩ <;> rfl

/-- **The ROS 2 service snapshot holds only admitted services, each with its package and
name**, and the caches stay sound. -/
theorem collectRos2Services_spec {st : Ros2PollerState} (hs : st.Sound cfg) (graph : Ros2Graph) :
    (collectRos2Services cfg graph st).1.Sound cfg ∧
      ServiceEntriesComplete (collectRos2Services cfg graph st).2 ∧
      ∀ n ∈ (collectRos2Services cfg graph st).2, Admits cfg.regexMatch cfg.serviceRegexList n := by
  refine ⟨collectRos2Services_sound hs graph, fun n details h ↦ ?_, fun n hn ↦ ?_⟩
  · rw [lookup_collectRos2Services hs graph n] at h
    obtain ⟨types, -, h⟩ := Option.bind_eq_some.1 h
    obtain ⟨pos, -, rfl⟩ := Option.map_eq_some'.1 h
    exact setPackageAndName_complete _ _ _
  · rw [← AList.lookup_isSome, lookup_collectRos2Services hs graph n] at hn
    obtain ⟨_, hv⟩ := Option.isSome_iff_exists.1 hn
    obtain ⟨_, -, h⟩ := Option.bind_eq_some.1 hv
    obtain ⟨_, hpos, -⟩ := Option.map_eq_some'.1 h
    exact admits_of_ros2ServiceSplit_eq_some hpos

/-- **Which services the poller ignores after the service loop**: those it ignored before, and
the listed services that the loop ignores (`ignoresService`). -/
theorem mem_collectRos2Services_alreadyIgnoredServices {st : Ros2PollerState}
    (hs : st.Sound cfg) (graph : Ros2Graph) (k : String) :
    k ∈ (collectRos2Services cfg graph st).1.alreadyIgnoredServices ↔
      k ∈ st.alreadyIgnoredServices ∨
        ∃ types, graph.serviceNamesAndTypes.lookup k = some types ∧
          ignoresService cfg ⟨k, types⟩ :=
  (mem_foldl_of_adds Ros2PollerState.alreadyIgnoredServices (fun acc ↦ acc.1.Sound cfg)
    (checkRos2Service cfg) (ignoresService cfg)
    (fun _ e hs ↦ have h := checkRos2Service_spec hs e
      ⟨h.1, h.2.1⟩)
    k graph.serviceNamesAndTypes.entries (st, ∅) hs).trans
    (or_congr_right exists_mem_entries_iff)

/-- The service loop leaves the ignored topics alone. -/
theorem collectRos2Services_alreadyIgnoredTopics (graph : Ros2Graph) (st : Ros2PollerState) :
    (collectRos2Services cfg graph st).1.alreadyIgnoredTopics = st.alreadyIgnoredTopics :=
  List.foldlRecOn (motive := fun acc : Ros2PollerState × StrMap ServiceDetails ↦
      acc.1.alreadyIgnoredTopics = st.alreadyIgnoredTopics) _ _ _ rfl
    fun acc h service _ ↦ by
      dsimp only [checkRos2Service]
      rcases findSlash service.2.first <;>
        simp only [apply_ite Prod.fst, apply_ite Ros2PollerState.alreadyIgnoredTopics, ite_self, h]

end ServiceSnapshot

end WhitelistBridge
