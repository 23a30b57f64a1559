import WhitelistBridge.Map

/-!
# The whitelist matcher

`check_inregex_list` decides whether a name is whitelisted: a name already in the
known-match cache is accepted at once; otherwise the patterns are tried in order, and the
first match adds the name to the cache. A miss is never cached.

The regex engine (`std::regex_match`) is not modelled: a pattern is an element of an
arbitrary type `ρ`, and `regexMatch name rgxp` is whatever the engine answers.

## The cache invariant

The cache is transparent exactly when it holds only names some pattern matches
(`CacheSound`). Under that invariant the matcher answers `Admits` — the answer the patterns
alone would give — and the call keeps the invariant (`checkInregexList_eq_true_iff`,
`checkInregexList_cacheSound`). Both pollers keep one such cache per pattern list, and every
run-level statement about the whitelist rests on these two lemmas.

Along any sequence of calls on one cache (`knownSetAfter`), the cache holds what it held and the
names called that some pattern matches (`mem_knownSetAfter`), so every call of the sequence
answers as the patterns alone would (`checkInregexList_sequence`).
-/

namespace WhitelistBridge

variable {ρ : Type} (regexMatch : String → ρ → Bool)

/-- Some pattern of `regexList` matches `name`. -/
def Admits (regexList : List ρ) (name : String) : Prop :=
  ∃ rgxp ∈ regexList, regexMatch name rgxp = true

instance (regexList : List ρ) (name : String) : Decidable (Admits regexMatch regexList name) :=
  decidable_of_iff (regexList.any (regexMatch name) = true) (by simp [Admits])

/-- `check_inregex_list(regex_list, name, known_set)`: the answer, and `known_set` after the
call. -/
def checkInregexList (regexList : List ρ) (name : String) (knownSet : List String) :
    Bool × List String :=
  if name ∈ knownSet then (true, knownSet)
  else if regexList.any (regexMatch name) then (true, knownSet.insert name)
  else (false, knownSet)

/-- The known-match cache holds only names some pattern matches. -/
def CacheSound (regexList : List ρ) (knownSet : List String) : Prop :=
  ∀ n ∈ knownSet, Admits regexMatch regexList n

/-- The known-match cache after `check_inregex_list` has been called on `names`, in order. -/
def knownSetAfter (regexList : List ρ) (names knownSet : List String) : List String :=
  names.foldl (fun knownSet name ↦ (checkInregexList regexMatch regexList name knownSet).2)
    knownSet

variable {regexMatch} {regexList : List ρ} {name : String} {knownSet : List String}

theorem any_eq_true_iff_admits :
    regexList.any (regexMatch name) = true ↔ Admits regexMatch regexList name := by
  simp [Admits]

/-- **The cache is transparent.** Under a sound cache the matcher answers exactly whether
some pattern matches. -/
theorem checkInregexList_eq_true_iff (hc : CacheSound regexMatch regexList knownSet) :
    (checkInregexList regexMatch regexList name knownSet).1 = true ↔
      Admits regexMatch regexList name := by
  unfold checkInregexList
  split_ifs with hk ha
  · exact iff_of_true rfl (hc name hk)
  · exact iff_of_true rfl (any_eq_true_iff_admits.1 ha)
  · simpa using mt any_eq_true_iff_admits.2 ha

/-- The cache after a call: the old cache, plus the name when the call had to evaluate
the patterns and one matched. -/
theorem mem_checkInregexList_snd {n : String} :
    n ∈ (checkInregexList regexMatch regexList name knownSet).2 ↔
      n ∈ knownSet ∨ (n = name ∧ Admits regexMatch regexList name) := by
  unfold checkInregexList
  split_ifs with hk ha
  · exact ⟨Or.inl, fun h ↦ h.elim id fun h' ↦ h'.1 ▸ hk⟩
  · simp [List.mem_insert_iff, any_eq_true_iff_admits.1 ha, or_comm]
  · simp only [iff_self_or, and_imp]
    exact fun _ h ↦ absurd (any_eq_true_iff_admits.2 h) ha

/-- The matcher keeps the cache sound. -/
theorem checkInregexList_cacheSound (hc : CacheSound regexMatch regexList knownSet) :
    CacheSound regexMatch regexList (checkInregexList regexMatch regexList name knownSet).2 :=
  fun n hn ↦ (mem_checkInregexList_snd.1 hn).elim (hc n) fun h ↦ h.1 ▸ h.2

/-- **One call.** Under a sound cache a call answers whether some pattern matches, keeps every
cached name, keeps the cache sound, and caches a name it accepts. -/
theorem checkInregexList_spec (hc : CacheSound regexMatch regexList knownSet) :
    ((checkInregexList regexMatch regexList name knownSet).1 = true ↔
      Admits regexMatch regexList name) ∧
    knownSet ⊆ (checkInregexList regexMatch regexList name knownSet).2 ∧
    CacheSound regexMatch regexList (checkInregexList regexMatch regexList name knownSet).2 ∧
    ((checkInregexList regexMatch regexList name knownSet).1 = true →
      name ∈ (checkInregexList regexMatch regexList name knownSet).2) :=
  ⟨checkInregexList_eq_true_iff hc, fun _ hn ↦ mem_checkInregexList_snd.2 (.inl hn),
    checkInregexList_cacheSound hc,
    fun ha ↦ mem_checkInregexList_snd.2 (.inr ⟨rfl, (checkInregexList_eq_true_iff hc).1 ha⟩)⟩

/-- A name already cached is accepted at once, and the cache stays as it was: no pattern is
evaluated. -/
theorem checkInregexList_of_mem (h : name ∈ knownSet) :
    checkInregexList regexMatch regexList name knownSet = (true, knownSet) :=
  if_pos h

/-! ### Sequences of calls

Each poller calls the matcher again and again on one cache, with whatever names the master or
the graph lists. -/

/-- **The cache after any sequence of calls** holds the names it held, and the names called that
some pattern matches. -/
theorem mem_knownSetAfter {n : String} (names : List String) (knownSet : List String) :
    n ∈ knownSetAfter regexMatch regexList names knownSet ↔
      n ∈ knownSet ∨ (n ∈ names ∧ Admits regexMatch regexList n) := by
  induction names generalizing knownSet with
  | nil => simp [knownSetAfter]
  | cons a names ih =>
    rw [knownSetAfter, List.foldl_cons, ← knownSetAfter, ih, mem_checkInregexList_snd]
    by_cases hn : n = a
    · subst hn
      simpa using fun _ ↦ Or.inr
    · simp [hn]

/-- Calls keep a sound cache sound. -/
theorem cacheSound_knownSetAfter (hc : CacheSound regexMatch regexList knownSet)
    (names : List String) : CacheSound regexMatch regexList
      (knownSetAfter regexMatch regexList names knownSet) :=
  fun n hn ↦ ((mem_knownSetAfter names knownSet).1 hn).elim (hc n) And.right

/-- **The cache stays transparent along every sequence of calls.** Start from a cache that holds
only names some pattern matches, and make any calls on it: the call that follows them answers
whether some pattern matches its name, keeps every name the cache held, leaves it holding only
names some pattern matches, and caches its name when it answers true. -/
theorem checkInregexList_sequence (regexMatch : String → ρ → Bool) (regexList : List ρ)
    (knownSet : List String) (hc : CacheSound regexMatch regexList knownSet)
    (earlier : List String) (name : String) :
    let before := knownSetAfter regexMatch regexList earlier knownSet
    let call := checkInregexList regexMatch regexList name before
    (call.1 = true ↔ Admits regexMatch regexList name) ∧ before ⊆ call.2 ∧
      CacheSound regexMatch regexList call.2 ∧ (call.1 = true → name ∈ call.2) :=
  checkInregexList_spec (cacheSound_knownSetAfter hc earlier)

theorem checkInregexList_sequence_chatter :
    CacheSound (fun n rgxp : String ↦ n == rgxp) ["/chatter"] [] ∧
      let before := knownSetAfter (fun n rgxp : String ↦ n == rgxp) ["/chatter"]
        ["/rosout", "/chatter"] []
      let call := checkInregexList (fun n rgxp : String ↦ n == rgxp) ["/chatter"] "/chatter" before
      (call.1 = true ↔ Admits (fun n rgxp : String ↦ n == rgxp) ["/chatter"] "/chatter") ∧
        before ⊆ call.2 ∧ CacheSound (fun n rgxp : String ↦ n == rgxp) ["/chatter"] call.2 ∧
        (call.1 = true → "/chatter" ∈ call.2) :=
  ⟨(fun _ h ↦ nomatch h), checkInregexList_sequence _ _ [] (fun _ h ↦ nomatch h) _ _⟩

end WhitelistBridge
