import WhitelistBridge.Model

/-!
# Resolving a ROS 1 service's type

`get_ros1_service_info(name, ros1_services)` asks a ROS 1 service server for its type without
calling the service: it looks up the server's address, connects, sends a probe header, reads
a 4-byte length and then that many bytes, parses them as a connection header and reads its
`type` field. The type is split at its first `/` into the entry's `"package"` and `"name"`.

What the network and `ros::Header::parse` give is the input `ServiceProbe`: whether the
lookup and the connection succeed, the return values of the two `read`s, the length prefix,
and the parsed header (`none` when the parse fails). Every `return` of the source is a branch
of `getRos1ServiceInfo`; `getRos1ServiceInfo_cases` lists them, and `lookup_getRos1ServiceInfo`
says what each leaves at the probed name (`ros1ServiceEntry`).

## The empty entry

The source writes `ros1_services[key] = {}` before it parses the header, and only the
missing-`type` path erases it again: after a failed parse the name stays in the map with an
empty entry (`getRos1ServiceInfo_unparsable_header`). A type without `/` makes
`t.begin() + t.find("/")` step outside the string, which is undefined behaviour; the model
gives `none` there.
-/

namespace WhitelistBridge

/-- What one call of `get_ros1_service_info` gets from the network. -/
structure ServiceProbe where
  /-- `manager.lookupService(name, host, port)` succeeds. -/
  lookupService : Bool
  /-- `transport->connect(host, port)` succeeds. -/
  connect : Bool
  /-- What `transport->read(&length, 4)` returns. -/
  lengthRead : Int
  /-- The length prefix that read fills in. -/
  length : UInt32
  /-- What `transport->read(response.data(), length)` returns. -/
  responseRead : Int
  /-- `header_in.parse(response.data(), length, error)`: the fields, or `none` on failure. -/
  header : Option (StrMap String)

/-- `t.find("/")`: the position of the first `/`, or `none` for `npos`. -/
def findSlash (t : String) : Option Nat :=
  if t.data.indexOf '/' < t.length then some (t.data.indexOf '/') else none

/-- The entry `get_ros1_service_info` builds for a type `t` split at `pos`: `"type"`, then
`"package"` (the characters before `pos`) and `"name"` (those after it). -/
def splitServiceType (t : String) (pos : Nat) : ServiceDetails :=
  (((∅ : StrMap String).insert "type" t).insert "package" ⟨t.data.take pos⟩).insert "name"
    ⟨t.data.drop (pos + 1)⟩

/-- `get_ros1_service_info(name, ros1_services)`; `none` where the type has no `/`. -/
def getRos1ServiceInfo (name : String) (probe : ServiceProbe)
    (ros1Services : StrMap ServiceDetails) : Option (StrMap ServiceDetails) :=
  if !probe.lookupService then some ros1Services
  else if !probe.connect then some ros1Services
  else if probe.lengthRead ≠ 4 then some ros1Services
  else if probe.responseRead < 0 ∨ probe.responseRead ≠ probe.length.toNat then some ros1Services
  else
    match probe.header with
    | none => some (ros1Services.insert name ∅)
    | some header =>
      match header.lookup "type" with
      | none => some ((ros1Services.insert name ∅).erase name)
      | some t =>
        match findSlash t with
        | none => none
        | some pos => some ((ros1Services.insert name ∅).insert name (splitServiceType t pos))

/-! ### The split -/

/-- `findSlash` finds the first `/`: the characters before it hold none. -/
theorem findSlash_eq_some {t : String} {pos : Nat} (h : findSlash t = some pos) :
    t.data = t.data.take pos ++ '/' :: t.data.drop (pos + 1) ∧ '/' ∉ t.data.take pos := by
  unfold findSlash at h
  split_ifs at h with hlt
  cases h
  have hlt' : t.data.indexOf '/' < t.data.length := hlt
  have hget : t.data[t.data.indexOf '/'] = '/' := List.indexOf_get hlt'
  refine ⟨?_, fun hmem ↦ ?_⟩
  · conv_lhs => rw [← List.take_append_drop (t.data.indexOf '/') t.data]
    rw [List.drop_eq_getElem_cons hlt', hget]
  · obtain ⟨i, hi, hie⟩ := List.getElem_of_mem hmem
    rw [List.length_take] at hi
    have := List.not_of_lt_findIdx (p := (· == '/')) (Nat.lt_min.1 hi).1
    simp_all [List.getElem_take]

/-- Whether the server answered the probe: the lookup, the connection and both reads
succeeded, so `get_ros1_service_info` goes on to the header. -/
def ServiceProbe.Answered (probe : ServiceProbe) : Prop :=
  probe.lookupService = true ∧ probe.connect = true ∧ probe.lengthRead = 4 ∧
    ¬(probe.responseRead < 0 ∨ probe.responseRead ≠ probe.length.toNat)

instance (probe : ServiceProbe) : Decidable probe.Answered :=
  inferInstanceAs (Decidable (probe.lookupService = true ∧ probe.connect = true ∧
    probe.lengthRead = 4 ∧ ¬(probe.responseRead < 0 ∨ probe.responseRead ≠ probe.length.toNat)))

/-- The entry a probe leaves for its service when `get_ros1_service_info` returns: none when the
server did not answer or its header has no `type`, the empty entry when the header does not
parse, and the type split at its first `/` otherwise. -/
def ros1ServiceEntry (probe : ServiceProbe) : Option ServiceDetails :=
  if probe.Answered then
    match probe.header with
    | none => some ∅
    | some header => (header.lookup "type").bind fun t ↦ (findSlash t).map (splitServiceType t)
  else none

/-- An entry a probe can leave in the map: the empty entry of a failed header parse, or a type
split at its first `/`. -/
def ProbedEntry (details : ServiceDetails) : Prop :=
  details = ∅ ∨ ∃ t pos, findSlash t = some pos ∧ details = splitServiceType t pos

/-- Every entry a probe gives is one a probe can leave. -/
theorem ros1ServiceEntry_probedEntry {probe : ServiceProbe} {details : ServiceDetails}
    (h : ros1ServiceEntry probe = some details) : ProbedEntry details := by
  unfold ros1ServiceEntry at h
  split_ifs at h
  rcases hh : probe.header with _ | header <;> simp only [hh, Option.some.injEq] at h
  · exact .inl h.symm
  obtain ⟨t, -, hs⟩ := Option.bind_eq_some.1 h
  obtain ⟨pos, hpos, rfl⟩ := Option.map_eq_some'.1 hs
  exact .inr ⟨t, pos, hpos, rfl⟩

section Probe

variable {name : String} {probe : ServiceProbe} {m m' : StrMap ServiceDetails}

/-- **The four outcomes of a probe**: the map is left alone when the server did not answer;
otherwise it gets the name with an empty entry when the header did not parse, loses the name
when the header has no `type`, and gets the name with its type split at the first `/`. -/
theorem getRos1ServiceInfo_cases (h : getRos1ServiceInfo name probe m = some m') :
    (¬probe.Answered ∧ m' = m) ∨
      (probe.Answered ∧ probe.header = none ∧ m' = m.insert name ∅) ∨
      (probe.Answered ∧ (∃ header, probe.header = some header ∧ header.lookup "type" = none) ∧
        m' = (m.insert name ∅).erase name) ∨
      (probe.Answered ∧ ∃ header t pos, probe.header = some header ∧
        header.lookup "type" = some t ∧ findSlash t = some pos ∧
        m' = m.insert name (splitServiceType t pos)) := by
  unfold getRos1ServiceInfo at h
  by_cases ha : probe.Answered
  swap
  · -- a failed lookup, connection or read returns the map as it was
    refine .inl ⟨ha, ?_⟩
    unfold ServiceProbe.Answered at ha
    split_ifs at h <;> first | (cases h; rfl) | (exfalso; simp_all)
  obtain ⟨h₁, h₂, h₃, h₄⟩ := id ha
  simp only [h₁, h₂, h₃, h₄, Bool.not_true, Bool.false_eq_true, ne_eq, not_true_eq_false,
    if_false] at h
  rcases hh : probe.header with _ | header <;> simp only [hh, Option.some.injEq] at h
  · exact .inr (.inl ⟨ha, rfl, h.symm⟩)
  rcases ht : header.lookup "type" with _ | t <;> simp only [ht, Option.some.injEq] at h
  · exact .inr (.inr (.inl ⟨ha, ⟨header, rfl, ht⟩, h.symm⟩))
  rcases hs : findSlash t with _ | pos <;>
    simp only [hs, reduceCtorEq, Option.some.injEq, AList.insert_insert] at h
  exact .inr (.inr (.inr ⟨ha, header, t, pos, rfl, ht, hs, h.symm⟩))

/-- A probe changes the map at most at the probed name. -/
theorem lookup_getRos1ServiceInfo_of_ne (h : getRos1ServiceInfo name probe m = some m')
    {k : String} (hk : k ≠ name) : m'.lookup k = m.lookup k := by
  rcases getRos1ServiceInfo_cases h with ⟨-, rfl⟩ | ⟨-, -, rfl⟩ | ⟨-, -, rfl⟩ |
      ⟨-, _, _, _, -, -, -, rfl⟩ <;>
    simp [AList.lookup_insert_ne hk, AList.lookup_erase_ne hk]

/-- **What a probe leaves at each name**: the probed name gets `ros1ServiceEntry` when the
server answered and keeps its entry when not; every other name keeps its entry. -/
theorem lookup_getRos1ServiceInfo (h : getRos1ServiceInfo name probe m = some m') (k : String) :
    m'.lookup k = if k = name ∧ probe.Answered then ros1ServiceEntry probe else m.lookup k := by
  by_cases hk : k = name
  swap
  · rw [if_neg fun h ↦ hk h.1, lookup_getRos1ServiceInfo_of_ne h hk]
  subst hk
  rcases getRos1ServiceInfo_cases h with ⟨ha, rfl⟩ | ⟨ha, hh, rfl⟩ | ⟨ha, ⟨_, hh, ht⟩, rfl⟩ |
      ⟨ha, _, _, _, hh, ht, hs, rfl⟩
  · simp [ha]
  · simp [ha, ros1ServiceEntry, hh]
  · simp [ha, ros1ServiceEntry, hh, ht]
  · simp [ha, ros1ServiceEntry, hh, ht, hs]

end Probe

/-- **An unparsable response leaves an empty entry.** The lookup, the connection and both
reads succeed, `Header::parse` fails: `/s` stays in the map with no `"package"` and no
`"name"`, which `update_bridge` then reads with `details.at`. -/
theorem getRos1ServiceInfo_unparsable_header :
    getRos1ServiceInfo "/s" ⟨true, true, 4, 7, 7, none⟩ ∅ =
      some ((∅ : StrMap ServiceDetails).insert "/s" ∅) := rfl

end WhitelistBridge
