import WhitelistBridge.TopicPass

/-!
# The service passes of `update_bridge`

After the topic passes `update_bridge` runs four loops over services:
`// create bridges for ros1 services` over `ros1_services`, writing `service_bridges_2_to_1`;
`// create bridges for ros2 services` over `ros2_services`, writing `service_bridges_1_to_2`;
then `// remove obsolete ros1 services` and `// remove obsolete ros2 services`, which erase
the entries whose name the originating snapshot no longer lists.

The two creation loops are one body (`createServiceBridge`) applied to each direction's
domain string, builder and pair of maps; so are the two removal loops
(`eraseObsoleteServices`).

## Where `update_bridge` does not return

`details.at("package")` throws `std::out_of_range` on an entry without that field, and
nothing in `update_bridge` or its callers catches it. A removal that throws is logged by the
`catch`, which leaves the iterator where it was: the loop visits the same entry again, and if
the removal keeps throwing the loop never ends (`removalLoop_eq_none_of_stuck`). Both are
`none` here. `removalLoop` is the iterator loop as written, run for a bounded number of
iterations; `eraseObsoleteServices` is its structural form, and the two agree for every
number of iterations past the length of the map (`removalLoop_eq_eraseObsoleteServices`).
-/

namespace WhitelistBridge

variable {F S S' : Type}

/-! ### Creation -/

/-- What the creation loop of `domain` builds for a service from its snapshot entry:
`details.at("package")` and `details.at("name")` name a factory, whose builder may throw. -/
def buildServiceBridge (getServiceFactory : String → String → String → Option F)
    (domain : String) (build : F → String → Option S) (name : String)
    (details : ServiceDetails) : Option S :=
  match details.lookup "package", details.lookup "name" with
  | some packageName, some typeName =>
    (getServiceFactory domain packageName typeName).bind (build · name)
  | _, _ => none

/-- One iteration of a service creation loop at `⟨name, details⟩`: `own` is the map the loop
writes, `other` the map of the other direction. A name in either map is skipped; otherwise
the two fields are read (`none` when one is missing: `std::out_of_range` escapes), the
factory is looked up, and its bridge is recorded unless it is null or its builder throws. -/
def createServiceBridge (getServiceFactory : String → String → String → Option F)
    (domain : String) (build : F → String → Option S) (other : StrMap S') (own : StrMap S)
    (service : Σ _ : String, ServiceDetails) : Option (StrMap S) :=
  if service.1 ∉ own ∧ service.1 ∉ other then
    match service.2.lookup "package", service.2.lookup "name" with
    | some packageName, some typeName =>
      match getServiceFactory domain packageName typeName with
      | some factory =>
        match build factory service.1 with
        | some bridge => some (own.insert service.1 bridge)
        | none => some own
      | none => some own
    | _, _ => none
  else some own

/-- A service creation loop. -/
def createServiceBridges (getServiceFactory : String → String → String → Option F)
    (domain : String) (build : F → String → Option S) (other : StrMap S')
    (services : StrMap ServiceDetails) (own : StrMap S) : Option (StrMap S) :=
  services.entries.foldlM (createServiceBridge getServiceFactory domain build other) own

/-- What one creation iteration leaves at its service name, from the entry there before;
`none` when it throws. -/
def serviceBridgeOutcome (getServiceFactory : String → String → String → Option F)
    (domain : String) (build : F → String → Option S) (other : StrMap S') (name : String)
    (details : ServiceDetails) (old : Option S) : Option (Option S) :=
  match old with
  | some bridge => some (some bridge)
  | none =>
    if name ∈ other then some none
    else if (details.lookup "package").isSome ∧ (details.lookup "name").isSome then
      some (buildServiceBridge getServiceFactory domain build name details)
    else none

/-- Every entry of a service snapshot carries `"package"` and `"name"`. -/
def ServiceEntriesComplete (services : StrMap ServiceDetails) : Prop :=
  ∀ name details, services.lookup name = some details →
    (details.lookup "package").isSome ∧ (details.lookup "name").isSome

theorem serviceEntriesComplete_empty : ServiceEntriesComplete ∅ := fun _ _ h ↦ by simp at h

section Creation

variable {getServiceFactory : String → String → String → Option F} {domain : String}
  {build : F → String → Option S} {other : StrMap S'}

theorem join_serviceBridgeOutcome {name : String} {details : ServiceDetails}
    {old : Option S} :
    (serviceBridgeOutcome getServiceFactory domain build other name details old).join =
      match old with
      | some bridge => some bridge
      | none => if name ∈ other then none
        else buildServiceBridge getServiceFactory domain build name details := by
  unfold serviceBridgeOutcome buildServiceBridge
  rcases old with _ | bridge
  · split_ifs with ho hf
    · rfl
    · rfl
    · rcases hp : details.lookup "package" <;> rcases hn : details.lookup "name" <;>
        simp_all
  · rfl

/-- The body at a name that one of the maps already holds. -/
theorem createServiceBridge_of_mem {own : StrMap S} {name : String} {details : ServiceDetails}
    (h : name ∈ own ∨ name ∈ other) :
    createServiceBridge getServiceFactory domain build other own ⟨name, details⟩ = some own := by
  rw [createServiceBridge, if_neg (by tauto)]

/-- The body at a name neither map holds: it throws without the two fields, and otherwise
records what the factory builds. -/
theorem createServiceBridge_of_not_mem {own : StrMap S} {name : String}
    {details : ServiceDetails} (h₁ : name ∉ own) (h₂ : name ∉ other) :
    createServiceBridge getServiceFactory domain build other own ⟨name, details⟩ =
      if (details.lookup "package").isSome ∧ (details.lookup "name").isSome then
        some (match buildServiceBridge getServiceFactory domain build name details with
          | some bridge => own.insert name bridge
          | none => own)
      else none := by
  rw [createServiceBridge, if_pos ⟨h₁, h₂⟩, buildServiceBridge]
  rcases details.lookup "package" with _ | packageName <;>
    rcases details.lookup "name" with _ | typeName <;> try rfl
  simp only [Option.isSome_some, and_self, if_true]
  rcases getServiceFactory domain packageName typeName with _ | factory
  · rfl
  · dsimp only [Option.some_bind]
    rcases build factory name <;> rfl

/-- **The body of a service creation loop touches only the name it visits.** -/
theorem createServiceBridge_pointwiseM :
    PointwiseM (createServiceBridge getServiceFactory domain build other)
      (serviceBridgeOutcome getServiceFactory domain build other) := by
  rintro own ⟨name, details⟩
  have hkeep : ∀ v, own.lookup name = v → ∀ m', some own = some m' → ∀ k,
      m'.lookup k = if k = name then v else own.lookup k := by
    rintro v hv m' ⟨⟩ k
    split_ifs with hk
    · exact hk ▸ hv
    · rfl
  dsimp only
  rcases hold : own.lookup name with _ | bridge
  · have h₁ : name ∉ own := AList.lookup_eq_none.1 hold
    by_cases h₂ : name ∈ other
    · rw [createServiceBridge_of_mem (Or.inr h₂), serviceBridgeOutcome, if_pos h₂]
      exact ⟨iff_of_true rfl rfl, hkeep none hold⟩
    · rw [createServiceBridge_of_not_mem h₁ h₂, serviceBridgeOutcome, if_neg h₂]
      split_ifs with hf
      · refine ⟨iff_of_true rfl rfl, ?_⟩
        rintro m' ⟨⟩ k
        rcases buildServiceBridge getServiceFactory domain build name details with _ | b
        · exact hkeep none hold own rfl k
        · split_ifs with hk
          · exact hk ▸ AList.lookup_insert _
          · exact AList.lookup_insert_ne hk
      · exact ⟨Iff.rfl, fun m' h ↦ nomatch h⟩
  · have h₁ : name ∈ own := AList.lookup_isSome.1 (by rw [hold]; rfl)
    rw [createServiceBridge_of_mem (Or.inl h₁), serviceBridgeOutcome]
    exact ⟨iff_of_true rfl rfl, hkeep (some bridge) hold⟩

/-- **What a creation loop leaves at each name.** A name the snapshot lists and neither map
holds gets what its factory builds; every other name keeps its entry. -/
theorem lookup_createServiceBridges {services : StrMap ServiceDetails} {own own' : StrMap S}
    (h : createServiceBridges getServiceFactory domain build other services own = some own')
    (k : String) :
    own'.lookup k =
      match services.lookup k with
      | some details =>
        match own.lookup k with
        | some bridge => some bridge
        | none => if k ∈ other then none
          else buildServiceBridge getServiceFactory domain build k details
      | none => own.lookup k := by
  rw [lookup_foldlM_of_pointwiseM createServiceBridge_pointwiseM services h k]
  rcases services.lookup k with _ | details
  · rfl
  · exact join_serviceBridgeOutcome

/-- A creation loop leaves alone every name its snapshot does not list. -/
theorem lookup_createServiceBridges_of_not_mem {services : StrMap ServiceDetails}
    {own own' : StrMap S}
    (h : createServiceBridges getServiceFactory domain build other services own = some own')
    {k : String} (hk : k ∉ services) : own'.lookup k = own.lookup k := by
  rw [lookup_createServiceBridges h k, AList.lookup_eq_none.2 hk]

/-- A name a creation loop leaves in its map was there before, or the other map lacks it. -/
theorem mem_of_mem_createServiceBridges {services : StrMap ServiceDetails}
    {own own' : StrMap S}
    (h : createServiceBridges getServiceFactory domain build other services own = some own')
    {k : String} (hk : k ∈ own') : k ∈ own ∨ k ∉ other := by
  rw [← AList.lookup_isSome, lookup_createServiceBridges h k] at hk
  by_cases ho : k ∈ other
  · refine Or.inl (AList.lookup_isSome.1 ?_)
    split at hk
    · split at hk
      · simp [*]
      · simp [ho] at hk
    · exact hk
  · exact Or.inr ho

/-- A name a creation loop leaves in its map was already there. -/
theorem mem_createServiceBridges_of_mem {services : StrMap ServiceDetails}
    {own own' : StrMap S}
    (h : createServiceBridges getServiceFactory domain build other services own = some own')
    {k : String} (hk : k ∈ own) : k ∈ own' := by
  rw [← AList.lookup_isSome, lookup_createServiceBridges h k]
  obtain ⟨bridge, hb⟩ := Option.isSome_iff_exists.1 (AList.lookup_isSome.2 hk)
  rcases services.lookup k <;> simp [hb]

/-- A creation loop that returned read both fields of every entry it reached: a listed name
neither map held. -/
theorem fields_of_createServiceBridges {services : StrMap ServiceDetails} {own own' : StrMap S}
    (h : createServiceBridges getServiceFactory domain build other services own = some own')
    {name : String} {details : ServiceDetails} (hd : services.lookup name = some details)
    (h₁ : name ∉ own) (h₂ : name ∉ other) :
    (details.lookup "package").isSome ∧ (details.lookup "name").isSome := by
  have := (isSome_foldlM_of_pointwiseM createServiceBridge_pointwiseM services own).1
    (by rw [createServiceBridges] at h; rw [h]; rfl) ⟨name, details⟩ (AList.mem_lookup_iff.1 hd)
  rw [AList.lookup_eq_none.2 h₁, serviceBridgeOutcome, if_neg h₂] at this
  split_ifs at this with hf
  · exact hf
  · exact absurd this (by simp)

/-- A listed name that a creation loop found in neither map and left out of its map carries
both fields, and its bridge could not be built. -/
theorem unbuilt_of_createServiceBridges {services : StrMap ServiceDetails} {own own' : StrMap S}
    (h : createServiceBridges getServiceFactory domain build other services own = some own')
    {name : String} {details : ServiceDetails} (hd : services.lookup name = some details)
    (h₁ : name ∉ own) (h₂ : name ∉ other) (h₃ : name ∉ own') :
    ((details.lookup "package").isSome ∧ (details.lookup "name").isSome) ∧
      buildServiceBridge getServiceFactory domain build name details = none := by
  refine ⟨fields_of_createServiceBridges h hd h₁ h₂, ?_⟩
  have := lookup_createServiceBridges h name
  rw [hd, AList.lookup_eq_none.2 h₁, AList.lookup_eq_none.2 h₃] at this
  simpa [h₂] using this.symm

/-- A creation loop returns its map untouched when every listed name is in a map already,
or carries both fields and builds nothing. -/
theorem createServiceBridges_eq_self {services : StrMap ServiceDetails} {own : StrMap S}
    (h : ∀ name details, services.lookup name = some details → name ∈ own ∨ name ∈ other ∨
      ((details.lookup "package").isSome ∧ (details.lookup "name").isSome) ∧
        buildServiceBridge getServiceFactory domain build name details = none) :
    createServiceBridges getServiceFactory domain build other services own = some own := by
  refine foldlM_eq_self fun ⟨name, details⟩ he ↦ ?_
  rcases h name details (AList.mem_lookup_iff.2 he) with h₁ | h₂ | ⟨hf, hb⟩
  · exact createServiceBridge_of_mem (Or.inl h₁)
  · exact createServiceBridge_of_mem (Or.inr h₂)
  · by_cases h₁ : name ∈ own
    · exact createServiceBridge_of_mem (Or.inl h₁)
    by_cases h₂ : name ∈ other
    · exact createServiceBridge_of_mem (Or.inr h₂)
    rw [createServiceBridge_of_not_mem h₁ h₂, if_pos hf, hb]

end Creation

/-! ### Removal -/

/-- A removal loop over the entries from the iterator to the end: an entry whose name the
snapshot lacks is erased when `remove` completes; when `remove` throws, the iterator stays on
that entry and the loop never ends (`none`). -/
def eraseObsoleteServices (services : StrMap ServiceDetails) (remove : String → S → Bool) :
    StrMap S → List (Σ _ : String, S) → Option (StrMap S)
  | m, [] => some m
  | m, e :: rest =>
    if e.1 ∉ services then
      if remove e.1 e.2 then eraseObsoleteServices services remove (m.erase e.1) rest
      else none
    else eraseObsoleteServices services remove m rest

/-- The removal loop as written, run for at most `fuel` iterations (`none` when they run
out). The state is the map and the entries from `it` to the end: `it = erase(it)` and `++it`
move to the next entry, and the `catch` leaves `it` where it is. -/
def removalLoop (services : StrMap ServiceDetails) (remove : String → S → Bool) :
    Nat → StrMap S → List (Σ _ : String, S) → Option (StrMap S)
  | 0, _, _ => none
  | _ + 1, m, [] => some m
  | fuel + 1, m, e :: rest =>
    if e.1 ∉ services then
      if remove e.1 e.2 then removalLoop services remove fuel (m.erase e.1) rest
      else removalLoop services remove fuel m (e :: rest)
    else removalLoop services remove fuel m rest

section Removal

variable {services : StrMap ServiceDetails} {remove : String → S → Bool}

/-- **A removal that keeps throwing stalls the loop for good**: from an iterator before an
entry the loop must remove and whose removal throws, no number of iterations ends the
loop. -/
theorem removalLoop_eq_none_of_stuck :
    ∀ {fuel : Nat} {m : StrMap S} {rest : List (Σ _ : String, S)},
      (∃ e ∈ rest, e.1 ∉ services ∧ remove e.1 e.2 = false) →
        removalLoop services remove fuel m rest = none
  | 0, _, _, _ => rfl
  | _ + 1, _, [], ⟨_, he, _⟩ => absurd he (List.not_mem_nil _)
  | _ + 1, _, e' :: _, ⟨e, he, hs, hr⟩ => by
    have hne : e'.1 ∉ services → remove e'.1 e'.2 = true → e ≠ e' := by
      rintro - hr' rfl
      exact absurd hr' (by simp [hr])
    rw [removalLoop]
    by_cases hs' : e'.1 ∈ services
    · rw [if_neg (not_not.2 hs')]
      refine removalLoop_eq_none_of_stuck ⟨e, (List.mem_cons.1 he).resolve_left ?_, hs, hr⟩
      rintro rfl
      exact hs hs'
    · rw [if_pos hs']
      cases hr' : remove e'.1 e'.2
      · exact removalLoop_eq_none_of_stuck ⟨e, he, hs, hr⟩
      · exact removalLoop_eq_none_of_stuck
          ⟨e, (List.mem_cons.1 he).resolve_left (hne hs' hr'), hs, hr⟩

/-- `/s` is bridged 1-to-2, `ros2_services` no longer lists it, and `shutdown` throws every
time: the loop `// remove obsolete ros2 services` runs out of any number of iterations. -/
theorem removalLoop_shutdown_keeps_throwing (fuel : Nat) :
    removalLoop (∅ : StrMap ServiceDetails) (fun _ (_ : Unit) ↦ false) fuel
      ((∅ : StrMap Unit).insert "/s" ()) ((∅ : StrMap Unit).insert "/s" ()).entries = none :=
  removalLoop_eq_none_of_stuck ⟨⟨"/s", ()⟩, by decide, AList.not_mem_empty _, rfl⟩

/-- Past the length of the remaining entries, the loop as written computes
`eraseObsoleteServices`: both end with the same map, or neither ends. -/
theorem removalLoop_eq_eraseObsoleteServices :
    ∀ {fuel : Nat} {m : StrMap S} {rest : List (Σ _ : String, S)}, rest.length < fuel →
      removalLoop services remove fuel m rest = eraseObsoleteServices services remove m rest
  | 0, _, _, h => absurd h (Nat.not_lt_zero _)
  | _ + 1, _, [], _ => rfl
  | _ + 1, _, e :: _, h => by
    have h' := Nat.lt_of_succ_lt_succ h
    rw [removalLoop, eraseObsoleteServices]
    by_cases hs : e.1 ∈ services
    · rw [if_neg (not_not.2 hs), if_neg (not_not.2 hs)]
      exact removalLoop_eq_eraseObsoleteServices h'
    · rw [if_pos hs, if_pos hs]
      cases hr : remove e.1 e.2
      · exact removalLoop_eq_none_of_stuck ⟨e, List.mem_cons_self _ _, hs, hr⟩
      · exact removalLoop_eq_eraseObsoleteServices h'

/-- After a removal loop that ends, a name of the remaining entries is gone when the
snapshot lacks it; every other name keeps its entry. -/
theorem lookup_of_eraseObsoleteServices :
    ∀ {m m' : StrMap S} {rest : List (Σ _ : String, S)},
      eraseObsoleteServices services remove m rest = some m' → ∀ k,
        m'.lookup k = if k ∉ services ∧ k ∈ rest.keys then none else m.lookup k
  | _, _, [], h, k => by cases h; simp
  | m, _, e :: _, h, k => by
    rw [eraseObsoleteServices] at h
    split_ifs at h with hs hr
    · rw [lookup_of_eraseObsoleteServices h k]
      by_cases hk : k = e.1
      · subst hk
        simp [hs, AList.lookup_erase]
      · simp [List.keys_cons, hk, AList.lookup_erase_ne hk]
    · rw [lookup_of_eraseObsoleteServices h k]
      by_cases hk : k = e.1
      · subst hk
        simp [hs]
      · simp [List.keys_cons, hk]

/-- **A removal loop over a whole map keeps exactly the names the snapshot lists**, when
it ends. -/
theorem lookup_eraseObsoleteServices_entries {m m' : StrMap S}
    (h : eraseObsoleteServices services remove m m.entries = some m') (k : String) :
    m'.lookup k = if k ∈ services then m.lookup k else none := by
  rw [lookup_of_eraseObsoleteServices h k]
  by_cases hs : k ∈ services
  · simp [hs]
  · simp only [hs, not_false_eq_true, true_and, if_false, ite_eq_left_iff]
    exact fun hk ↦ AList.lookup_eq_none.2 fun hm ↦ hk (AList.mem_keys.1 hm)

/-- A removal loop over entries the snapshot all lists returns its map untouched. -/
theorem eraseObsoleteServices_of_forall_mem {m : StrMap S} :
    ∀ {rest : List (Σ _ : String, S)}, (∀ e ∈ rest, e.1 ∈ services) →
      eraseObsoleteServices services remove m rest = some m
  | [], _ => rfl
  | e :: rest, h => by
    rw [eraseObsoleteServices, if_neg (not_not.2 (h e (List.mem_cons_self e rest)))]
    exact eraseObsoleteServices_of_forall_mem fun e' he' ↦ h e' (List.mem_cons_of_mem e he')

/-- A name a removal loop over a whole map leaves was there before. -/
theorem mem_of_mem_eraseObsoleteServices {m m' : StrMap S}
    (h : eraseObsoleteServices services remove m m.entries = some m') {k : String}
    (hk : k ∈ m') : k ∈ m := by
  rw [← AList.lookup_isSome, lookup_eraseObsoleteServices_entries h k] at hk
  rw [← AList.lookup_isSome]
  split_ifs at hk
  · exact hk
  · exact absurd hk (by simp)

/-- A removal loop over a whole map leaves only names the snapshot lists. -/
theorem mem_services_of_eraseObsoleteServices {m m' : StrMap S}
    (h : eraseObsoleteServices services remove m m.entries = some m') {k : String}
    (hk : k ∈ m') : k ∈ services := by
  rw [← AList.lookup_isSome, lookup_eraseObsoleteServices_entries h k] at hk
  by_contra hs
  simp [hs] at hk

/-- A removal loop over a whole map keeps every name the snapshot lists. -/
theorem mem_eraseObsoleteServices_of_mem {m m' : StrMap S}
    (h : eraseObsoleteServices services remove m m.entries = some m') {k : String}
    (hs : k ∈ services) (hk : k ∈ m) : k ∈ m' := by
  rw [← AList.lookup_isSome, lookup_eraseObsoleteServices_entries h k, if_pos hs]
  exact AList.lookup_isSome.2 hk

end Removal

end WhitelistBridge
