import WhitelistBridge.Whitelist
import WhitelistBridge.ServiceInfo

/-!
# The ROS 1 poller

Every second `ros1_poll` asks the ROS 1 master for its system state and for its topic list,
and turns the answers into the three ROS 1 snapshots:

* the publisher and subscriber rows of the system state give the topics that some node other
  than the bridge publishes or subscribes to, when the topic whitelist admits them
  (`collectActiveTopics`);
* the service rows give, for each admitted service, the type its server reports
  (`collectRos1Services`, through `getRos1ServiceInfo`);
* the topic list gives each active topic its type (`currentRos1Topics`); an active subscriber
  that the list lacks gets the placeholder type `""`.

The poller keeps four sets from one cycle to the next: the names `check_inregex_list` found
valid, and the names it ignored because no pattern admits them. The snapshots do not depend on
them: `Ros1PollerState.Sound` (caches hold admitted names, ignored sets hold names no pattern
admits) holds of the empty sets and survives every check, and under it the active topics are
exactly the admitted topics some other node holds (`collectActiveTopics_spec`), and the
service snapshot gives exactly the listed admitted services the entry their probe leaves
(`lookup_collectRos1Services`).

The model reads what the master returns as inputs: the system state with its rows, a
`ServiceProbe` for every service the poller probes, and the topic list as a map from names to
types (the master lists each topic once).
-/

namespace WhitelistBridge

variable {ρ : Type}

/-- The payload of `getSystemState`: publisher and subscriber rows `[topic, [node, ...]]` and
service rows; a list the payload lacks is empty. -/
structure SystemState where
  /-- `payload[0]`. -/
  publishers : List (String × List String)
  /-- `payload[1]`. -/
  subscribers : List (String × List String)
  /-- The names `payload[2][j][0]` of the service rows; `none` when it is not a string. -/
  services : List (Option String)

/-- The sets `ros1_poll` keeps across cycles. -/
structure Ros1PollerState where
  /-- `already_ignored_ros1_topics`. -/
  alreadyIgnoredRos1Topics : List String
  /-- `already_ignored_ros1_services`. -/
  alreadyIgnoredRos1Services : List String
  /-- `valid_ros1_topics`, the cache of the topic checks. -/
  validRos1Topics : List String
  /-- `valid_ros1_services`, the cache of the service checks. -/
  validRos1Services : List String

/-- The sets as the program starts. -/
def Ros1PollerState.empty : Ros1PollerState := ⟨[], [], [], []⟩

/-- A node other than `nodeName` holds topic `t` in one of the rows. -/
def HeldByOtherNode (nodeName : String) (rows : List (String × List String)) (t : String) :
    Prop :=
  ∃ row ∈ rows, row.1 = t ∧ ∃ n ∈ row.2, n ≠ nodeName

instance (nodeName : String) (rows : List (String × List String)) (t : String) :
    Decidable (HeldByOtherNode nodeName rows t) :=
  inferInstanceAs (Decidable (∃ row ∈ rows, row.1 = t ∧ ∃ n ∈ row.2, n ≠ nodeName))

@[simp] theorem not_heldByOtherNode_nil {nodeName t : String} : ¬HeldByOtherNode nodeName [] t :=
  by simp [HeldByOtherNode]

theorem heldByOtherNode_cons {nodeName t : String} {row : String × List String} {rows} :
    HeldByOtherNode nodeName (row :: rows) t ↔
      (row.1 = t ∧ ∃ n ∈ row.2, n ≠ nodeName) ∨ HeldByOtherNode nodeName rows t := by
  simp only [HeldByOtherNode, List.mem_cons, or_and_right, exists_or, exists_eq_left]

/-! ### Publishers and subscribers -/

/-- One row of the loops `// check publishers` and `// check subscribers`. The inner loop skips
the bridge's own node and stops at the first other node, where the topic is checked against the
whitelist unless it was already ignored. -/
def checkTopicRow (cfg : BridgeConfig ρ) (acc : Ros1PollerState × List String)
    (row : String × List String) : Ros1PollerState × List String :=
  let (st, active) := acc
  if row.2.any (· != cfg.nodeName) ∧ row.1 ∉ st.alreadyIgnoredRos1Topics then
    let (ok, valid) := checkInregexList cfg.regexMatch cfg.topicRegexList row.1 st.validRos1Topics
    if ok then ({ st with validRos1Topics := valid }, active.insert row.1)
    else
      ({ st with validRos1Topics := valid,
                 alreadyIgnoredRos1Topics := st.alreadyIgnoredRos1Topics.insert row.1 }, active)
  else (st, active)

/-- `active_publishers` and `active_subscribers`: the two loops over the publisher and the
subscriber rows, which share the poller's sets. -/
def collectActiveTopics (cfg : BridgeConfig ρ) (st : Ros1PollerState) (payload : SystemState) :
    Ros1PollerState × List String × List String :=
  let (st, activePublishers) := payload.publishers.foldl (checkTopicRow cfg) (st, [])
  let (st, activeSubscribers) := payload.subscribers.foldl (checkTopicRow cfg) (st, [])
  (st, activePublishers, activeSubscribers)

/-! ### Services -/

/-- One row of the loop `// check services`: an admitted service is probed into the map. -/
def checkServiceRow (cfg : BridgeConfig ρ) (probe : String → ServiceProbe)
    (acc : Ros1PollerState × StrMap ServiceDetails) :
    Option String → Option (Ros1PollerState × StrMap ServiceDetails)
  | none => some acc
  | some name =>
    if name ∉ acc.1.alreadyIgnoredRos1Services then
      let (ok, valid) :=
        checkInregexList cfg.regexMatch cfg.serviceRegexList name acc.1.validRos1Services
      if ok then
        (getRos1ServiceInfo name (probe name) acc.2).map
          ({ acc.1 with validRos1Services := valid }, ·)
      else
        some ({ acc.1 with
          validRos1Services := valid,
          alreadyIgnoredRos1Services := acc.1.alreadyIgnoredRos1Services.insert name }, acc.2)
    else some acc

/-- `active_ros1_services`: the loop over the service rows, from an empty map. -/
def collectRos1Services (cfg : BridgeConfig ρ) (probe : String → ServiceProbe)
    (st : Ros1PollerState) (payload : SystemState) :
    Option (Ros1PollerState × StrMap ServiceDetails) :=
  payload.services.foldlM (checkServiceRow cfg probe) (st, ∅)

/-! ### Types from the topic list -/

/-- One topic of the loop `for (auto topic : topics)`. -/
def recordTopicType (activePublishers activeSubscribers : List String)
    (acc : StrMap String × StrMap String) (topic : Σ _ : String, String) :
    StrMap String × StrMap String :=
  let hasPublisher : Bool := topic.1 ∈ activePublishers
  let hasSubscriber : Bool := topic.1 ∈ activeSubscribers
  if !hasPublisher && !hasSubscriber then acc
  else
    (if hasPublisher then acc.1.insert topic.1 topic.2 else acc.1,
      if hasSubscriber then acc.2.insert topic.1 topic.2 else acc.2)

/-- One subscriber of the loop that adds active subscribers the topic list lacks. -/
def addUnlistedSubscriber (subs : StrMap String) (activeSubscriber : String) : StrMap String :=
  if activeSubscriber ∉ subs then subs.insert activeSubscriber "" else subs

/-- `current_ros1_publishers` and `current_ros1_subscribers`. -/
def currentRos1Topics (activePublishers activeSubscribers : List String) (topics : StrMap String) :
    StrMap String × StrMap String :=
  let (pubs, subs) :=
    topics.entries.foldl (recordTopicType activePublishers activeSubscribers) (∅, ∅)
  (pubs, activeSubscribers.foldl addUnlistedSubscriber subs)

/-! ### The poller's sets -/

/-- **What the poller's sets hold**: its caches only names their whitelist admits, its ignored
sets only names their whitelist does not admit. -/
structure Ros1PollerState.Sound (cfg : BridgeConfig ρ) (st : Ros1PollerState) : Prop where
  validRos1Topics : CacheSound cfg.regexMatch cfg.topicRegexList st.validRos1Topics
  validRos1Services : CacheSound cfg.regexMatch cfg.serviceRegexList st.validRos1Services
  alreadyIgnoredRos1Topics :
    ∀ t ∈ st.alreadyIgnoredRos1Topics, ¬Admits cfg.regexMatch cfg.topicRegexList t
  alreadyIgnoredRos1Services :
    ∀ n ∈ st.alreadyIgnoredRos1Services, ¬Admits cfg.regexMatch cfg.serviceRegexList n

theorem Ros1PollerState.sound_empty (cfg : BridgeConfig ρ) : Ros1PollerState.empty.Sound cfg :=
  ⟨nofun, nofun, nofun, nofun⟩

section TopicRows

variable {cfg : BridgeConfig ρ} {acc : Ros1PollerState × List String}

/-- One row check keeps the sets sound and makes the row's topic active exactly when the
whitelist admits it and a node other than the bridge holds it in the row. -/
theorem checkTopicRow_spec (hs : acc.1.Sound cfg) (row : String × List String) :
    (checkTopicRow cfg acc row).1.Sound cfg ∧
      ∀ t, t ∈ (checkTopicRow cfg acc row).2 ↔ t ∈ acc.2 ∨
        (Admits cfg.regexMatch cfg.topicRegexList t ∧ row.1 = t ∧
          ∃ n ∈ row.2, n ≠ cfg.nodeName) := by
  obtain ⟨st, active⟩ := acc
  have hok : (checkInregexList cfg.regexMatch cfg.topicRegexList row.1 st.validRos1Topics).1
      = true ↔ _ := checkInregexList_eq_true_iff hs.validRos1Topics
  have hvalid : CacheSound cfg.regexMatch cfg.topicRegexList
      (checkInregexList cfg.regexMatch cfg.topicRegexList row.1 st.validRos1Topics).2 :=
    checkInregexList_cacheSound hs.validRos1Topics
  dsimp only [checkTopicRow]
  split_ifs with hrow hadm <;> dsimp only
  · -- admitted: the topic becomes active
    rw [hok] at hadm
    refine ⟨{ hs with validRos1Topics := hvalid }, fun t ↦ ?_⟩
    simp only [List.mem_insert_iff, List.any_eq_true, bne_iff_ne, ne_eq] at hrow ⊢
    constructor
    · rintro (rfl | h)
      · exact .inr ⟨hadm, rfl, hrow.1⟩
      · exact .inl h
    · rintro (h | ⟨-, rfl, -⟩)
      · exact .inr h
      · exact .inl rfl
  · -- rejected: the topic joins the ignored set
    rw [hok] at hadm
    refine ⟨⟨hvalid, hs.validRos1Services, ?_, hs.alreadyIgnoredRos1Services⟩,
      fun t ↦ (or_iff_left_of_imp ?_).symm⟩
    · simpa [List.mem_insert_iff, hadm] using hs.alreadyIgnoredRos1Topics
    · rintro ⟨h, rfl, -⟩
      exact absurd h hadm
  · -- skipped: only the bridge holds the topic in this row, or it was already ignored
    refine ⟨hs, fun t ↦ (or_iff_left_of_imp ?_).symm⟩
    rintro ⟨h, rfl, hother⟩
    simp only [List.any_eq_true, bne_iff_ne, ne_eq, not_and, not_not] at hrow
    exact absurd h (hs.alreadyIgnoredRos1Topics _ (hrow hother))

/-- **The active topics do not depend on earlier cycles**: after the loop over the rows, a topic
is active exactly when it was before or the whitelist admits it and a node other than the
bridge holds it, whatever the sets held. -/
theorem foldl_checkTopicRow_spec (rows : List (String × List String)) (hs : acc.1.Sound cfg) :
    (rows.foldl (checkTopicRow cfg) acc).1.Sound cfg ∧
      ∀ t, t ∈ (rows.foldl (checkTopicRow cfg) acc).2 ↔ t ∈ acc.2 ∨
        (Admits cfg.regexMatch cfg.topicRegexList t ∧ HeldByOtherNode cfg.nodeName rows t) := by
  induction rows generalizing acc with
  | nil => exact ⟨hs, fun t ↦ by simp⟩
  | cons row rows ih =>
    obtain ⟨hs', hmem⟩ := checkTopicRow_spec hs row
    obtain ⟨hs'', hmem'⟩ := ih hs'
    refine ⟨hs'', fun t ↦ ?_⟩
    rw [List.foldl_cons, hmem', hmem]
    rw [heldByOtherNode_cons, and_or_left, or_assoc]

/-- **The active topics of a cycle**: a topic is an active publisher (subscriber) exactly when
the whitelist admits it and a node other than the bridge publishes (subscribes to) it, whatever
names earlier cycles cached or ignored; the sets stay sound. -/
theorem collectActiveTopics_spec {st : Ros1PollerState} (hs : st.Sound cfg)
    (payload : SystemState) :
    (collectActiveTopics cfg st payload).1.Sound cfg ∧
      (∀ t, t ∈ (collectActiveTopics cfg st payload).2.1 ↔
        Admits cfg.regexMatch cfg.topicRegexList t ∧
          HeldByOtherNode cfg.nodeName payload.publishers t) ∧
      ∀ t, t ∈ (collectActiveTopics cfg st payload).2.2 ↔
        Admits cfg.regexMatch cfg.topicRegexList t ∧
          HeldByOtherNode cfg.nodeName payload.subscribers t := by
  obtain ⟨hs₁, hpub⟩ := foldl_checkTopicRow_spec payload.publishers
    (show (st, ([] : List String)).1.Sound cfg from hs)
  obtain ⟨hs₂, hsub⟩ := foldl_checkTopicRow_spec payload.subscribers
    (show ((payload.publishers.foldl (checkTopicRow cfg) (st, [])).1,
      ([] : List String)).1.Sound cfg from hs₁)
  exact ⟨hs₂, fun t ↦ by simpa using hpub t, fun t ↦ by simpa using hsub t⟩

end TopicRows

section ServiceRows

variable {cfg : BridgeConfig ρ} {probe : String → ServiceProbe}

/-- **One service row**: it keeps the sets sound and writes at most the row's name, with the
entry its probe leaves, when the whitelist admits the name and the server answered. -/
theorem checkServiceRow_spec {acc acc' : Ros1PollerState × StrMap ServiceDetails}
    (hs : acc.1.Sound cfg) {row : Option String}
    (h : checkServiceRow cfg probe acc row = some acc') :
    acc'.1.Sound cfg ∧ ∀ k, acc'.2.lookup k =
      if row = some k ∧ Admits cfg.regexMatch cfg.serviceRegexList k ∧ (probe k).Answered
      then ros1ServiceEntry (probe k) else acc.2.lookup k := by
  rcases row with _ | name
  · cases h
    exact ⟨hs, fun k ↦ by simp⟩
  have hok : (checkInregexList cfg.regexMatch cfg.serviceRegexList name acc.1.validRos1Services).1
      = true ↔ _ := checkInregexList_eq_true_iff hs.validRos1Services
  have hvalid : CacheSound cfg.regexMatch cfg.serviceRegexList
      (checkInregexList cfg.regexMatch cfg.serviceRegexList name acc.1.validRos1Services).2 :=
    checkInregexList_cacheSound hs.validRos1Services
  dsimp only [checkServiceRow] at h
  split_ifs at h with hign hadm
  · -- already ignored, so rejected
    cases h
    refine ⟨hs, fun k ↦ (if_neg ?_).symm⟩
    rintro ⟨hk, hadm, -⟩
    cases hk
    exact hs.alreadyIgnoredRos1Services _ hign hadm
  · -- admitted: the service is probed
    obtain ⟨m, hm, rfl⟩ := Option.map_eq_some'.1 h
    refine ⟨{ hs with validRos1Services := hvalid }, fun k ↦ ?_⟩
    rw [lookup_getRos1ServiceInfo hm k]
    by_cases hk : k = name
    · subst hk
      simp [hok.1 hadm]
    · simp [hk, Ne.symm hk]
  · -- rejected: the service joins the ignored set
    rw [hok] at hadm
    cases h
    refine ⟨⟨hs.validRos1Topics, hvalid, hs.alreadyIgnoredRos1Topics, ?_⟩,
      fun k ↦ (if_neg ?_).symm⟩
    · simpa [List.mem_insert_iff, hadm] using hs.alreadyIgnoredRos1Services
    · rintro ⟨hk, hadm', -⟩
      cases hk
      exact hadm hadm'

/-- After the loop over some rows, a service listed in them, admitted and answered has the
entry its probe leaves; every other service keeps its entry. -/
theorem lookup_foldlM_checkServiceRow (k : String) :
    ∀ (rows : List (Option String)) {acc acc' : Ros1PollerState × StrMap ServiceDetails},
      acc.1.Sound cfg → rows.foldlM (checkServiceRow cfg probe) acc = some acc' →
      acc'.1.Sound cfg ∧ acc'.2.lookup k =
        if some k ∈ rows ∧ Admits cfg.regexMatch cfg.serviceRegexList k ∧ (probe k).Answered
        then ros1ServiceEntry (probe k) else acc.2.lookup k
  | [], _, _, hs, h => by
    cases h
    exact ⟨hs, by simp⟩
  | row :: rows, acc, acc', hs, h => by
    rw [List.foldlM_cons] at h
    obtain ⟨acc₁, h₁, h₂⟩ := Option.bind_eq_some.1 h
    obtain ⟨hs₁, hrow⟩ := checkServiceRow_spec hs h₁
    obtain ⟨hs', hrows⟩ := lookup_foldlM_checkServiceRow k rows hs₁ h₂
    refine ⟨hs', ?_⟩
    rw [hrows, hrow]
    by_cases hc : Admits cfg.regexMatch cfg.serviceRegexList k ∧ (probe k).Answered
    · by_cases hr : row = some k
      · subst hr
        simp [hc]
      · simp [hc, hr, Ne.symm hr]
    · simp [hc]

/-- **What the ROS 1 service loop publishes, service by service**: a service listed in a row
and admitted by the whitelist gets the entry its probe leaves; no other service has one. -/
theorem lookup_collectRos1Services {st st' : Ros1PollerState} {services : StrMap ServiceDetails}
    (hs : st.Sound cfg) {payload : SystemState}
    (h : collectRos1Services cfg probe st payload = some (st', services)) (k : String) :
    services.lookup k =
      if some k ∈ payload.services ∧ Admits cfg.regexMatch cfg.serviceRegexList k
      then ros1ServiceEntry (probe k) else none := by
  rw [(lookup_foldlM_checkServiceRow k payload.services hs h).2]
  by_cases ha : (probe k).Answered
  · simp [ha]
  · simp [ha, ros1ServiceEntry]

/-- **The service snapshot holds only admitted services, each with an entry a probe can
leave**, and the sets stay sound. -/
theorem collectRos1Services_spec {st st' : Ros1PollerState} {services : StrMap ServiceDetails}
    (hs : st.Sound cfg) {payload : SystemState}
    (h : collectRos1Services cfg probe st payload = some (st', services)) :
    st'.Sound cfg ∧ (∀ n ∈ services, Admits cfg.regexMatch cfg.serviceRegexList n) ∧
      ∀ n d, services.lookup n = some d → ProbedEntry d := by
  refine ⟨(lookup_foldlM_checkServiceRow "" payload.services hs h).1, fun n hn ↦ ?_,
    fun n d hd ↦ ?_⟩
  · rw [← AList.lookup_isSome, lookup_collectRos1Services hs h n] at hn
    split_ifs at hn with hc
    exacts [hc.2, absurd hn (by simp)]
  · rw [lookup_collectRos1Services hs h n] at hd
    split_ifs at hd
    exact ros1ServiceEntry_probedEntry hd

end ServiceRows

/-! ### The topic snapshots -/

section TopicTypes

variable (activePublishers activeSubscribers : List String)

/-- The loop over the topic list writes the two maps independently. -/
theorem foldl_recordTopicType (topics : List (Σ _ : String, String))
    (acc : StrMap String × StrMap String) :
    topics.foldl (recordTopicType activePublishers activeSubscribers) acc =
      (topics.foldl (fun pubs topic ↦
          if topic.1 ∈ activePublishers then pubs.insert topic.1 topic.2 else pubs) acc.1,
        topics.foldl (fun subs topic ↦
          if topic.1 ∈ activeSubscribers then subs.insert topic.1 topic.2 else subs) acc.2) := by
  induction topics generalizing acc with
  | nil => rfl
  | cons topic topics ih =>
    rw [List.foldl_cons, ih]
    by_cases hp : topic.1 ∈ activePublishers <;> by_cases hs : topic.1 ∈ activeSubscribers <;>
      simp [recordTopicType, hp, hs]

/-- Copying the type of each listed topic of a set acts key by key. -/
theorem insertIfMem_pointwise (active : List String) :
    Pointwise (fun m (topic : Σ _ : String, String) ↦
        if topic.1 ∈ active then m.insert topic.1 topic.2 else m)
      (fun k a old ↦ if k ∈ active then some a else old) := by
  intro m e k
  by_cases hk : k = e.1
  · subst hk
    by_cases ha : e.1 ∈ active <;> simp [ha, AList.lookup_insert]
  · by_cases ha : e.1 ∈ active <;> simp [hk, ha, AList.lookup_insert_ne hk]

theorem lookup_addUnlistedSubscriber (subs : StrMap String) (s t : String) :
    (addUnlistedSubscriber subs s).lookup t =
      if t = s then some ((subs.lookup t).getD "") else subs.lookup t := by
  unfold addUnlistedSubscriber
  by_cases hts : t = s
  · subst hts
    by_cases hmem : t ∈ subs
    · obtain ⟨v, hv⟩ := Option.isSome_iff_exists.1 (AList.lookup_isSome.2 hmem)
      simp [hmem, hv]
    · simp [hmem, AList.lookup_insert, AList.lookup_eq_none.2 hmem]
  · by_cases hmem : s ∈ subs <;> simp [hts, hmem, AList.lookup_insert_ne hts]

/-- Adding the unlisted subscribers gives every active subscriber an entry, `""` when it had
none, and changes nothing else. -/
theorem lookup_foldl_addUnlistedSubscriber (l : List String) (subs : StrMap String) (t : String) :
    (l.foldl addUnlistedSubscriber subs).lookup t =
      if t ∈ l then some ((subs.lookup t).getD "") else subs.lookup t := by
  induction l generalizing subs with
  | nil => simp
  | cons s l ih =>
    rw [List.foldl_cons, ih, lookup_addUnlistedSubscriber]
    by_cases hts : t = s <;> by_cases hl : t ∈ l <;> simp [hts, hl]

/-- **The ROS 1 topic snapshots, key by key**: a topic has a publisher entry exactly when it is
an active publisher on the topic list, with the list's type; every active subscriber has a
subscriber entry, with the list's type or `""` when the list lacks it. -/
theorem lookup_currentRos1Topics (topics : StrMap String) (t : String) :
    (currentRos1Topics activePublishers activeSubscribers topics).1.lookup t =
        (if t ∈ activePublishers then topics.lookup t else none) ∧
      (currentRos1Topics activePublishers activeSubscribers topics).2.lookup t =
        (if t ∈ activeSubscribers then some ((topics.lookup t).getD "") else none) := by
  have hpub := lookup_foldl_of_pointwise (insertIfMem_pointwise activePublishers) topics ∅ t
  have hsub := lookup_foldl_of_pointwise (insertIfMem_pointwise activeSubscribers) topics ∅ t
  simp only [currentRos1Topics, foldl_recordTopicType, lookup_foldl_addUnlistedSubscriber,
    hpub, hsub]
  constructor <;> rcases topics.lookup t with _ | ty <;> split_ifs <;> simp_all

/-- Only active topics get an entry in the topic snapshots. -/
theorem mem_currentRos1Topics {topics : StrMap String} {t : String} :
    (t ∈ (currentRos1Topics activePublishers activeSubscribers topics).1 → t ∈ activePublishers) ∧
    (t ∈ (currentRos1Topics activePublishers activeSubscribers topics).2 →
      t ∈ activeSubscribers) := by
  obtain ⟨hpub, hsub⟩ := lookup_currentRos1Topics activePublishers activeSubscribers topics t
  constructor <;> intro ht <;> by_contra hn <;>
    simp [← AList.lookup_isSome, hpub, hsub, hn] at ht

end TopicTypes

end WhitelistBridge
