import WhitelistBridge.System

/-!
# The command line and the whitelists `main` reads

`main` starts with `parse_command_options`, which looks the options up in `argv` as it is, the
program name included: `-h`, `--help` and `--print-pairs` end the process, a flag is on when it
appears anywhere, and an option that takes a value takes the argument after its first
occurrence, or its default when it is absent or last. `main` then reads the two whitelists from
the ROS 1 parameters the options name into `whitelist_map`, a map keyed by parameter name, and
the pollers look their lists up there.

## Main results

* `parseCommandOptions_commandLine`: the round trip. A command line rendered from options whose
  values, like the program name, are no option name parses back to those options.
* `bridgeConfig_regexLists`: the configuration's two whitelists are the compiled patterns of
  the parameters the options name, empty for a parameter that is unset or not an array.
* `unset_whitelist_bridges_nothing`: with an unset whitelist parameter, no interleaving of the
  pollers ever bridges a topic (a service).
-/

namespace WhitelistBridge

variable {ρ H12 H21 S12 S21 : Type}

/-! ### `parse_command_options` -/

/-- `find_command_option`: whether `option` is one of the arguments. -/
def findCommandOption (args : List String) (option : String) : Bool :=
  args.contains option

/-- `get_flag_option`: the same search as `find_command_option`. -/
def getFlagOption (args : List String) (option : String) : Bool :=
  args.contains option

/-- `get_flag_val`: the argument after the first occurrence of `option`, or `defaultVal` when
`option` is absent or the last argument. -/
def getFlagVal (args : List String) (option defaultVal : String) : String :=
  match args.dropWhile (· != option) with
  | _ :: next :: _ => next
  | _ => defaultVal

/-- The options `parse_command_options` hands back to `main`. -/
structure CommandOptions where
  outputTopicIntrospection : Bool
  bridgeAll1to2Topics : Bool
  bridgeAll2to1Topics : Bool
  topicRgxpListParam : String
  srvRgxpListParam : String
  nodeSuffix : String
deriving DecidableEq

/-- `parse_command_options` on `argv`, the program name included; `none` where it prints the
usage or the supported pairs and returns `false`, so that `main` returns. -/
def parseCommandOptions (args : List String) : Option CommandOptions :=
  if findCommandOption args "-h" || findCommandOption args "--help" then none
  else if getFlagOption args "--print-pairs" then none
  else
    let bridgeAllTopics := getFlagOption args "--bridge-all-topics"
    some
      { outputTopicIntrospection := getFlagOption args "--show-introspection"
        bridgeAll1to2Topics := bridgeAllTopics || getFlagOption args "--bridge-all-1to2-topics"
        bridgeAll2to1Topics := bridgeAllTopics || getFlagOption args "--bridge-all-2to1-topics"
        topicRgxpListParam := getFlagVal args "--topic-regex-list" "topics_re"
        srvRgxpListParam := getFlagVal args "--service-regex-list" "services_re"
        nodeSuffix := getFlagVal args "--node-suffix" "default" }

section Args

variable {args : List String} {option defaultVal x : String}

theorem getFlagVal_cons_self (value : String) (rest : List String) :
    getFlagVal (option :: value :: rest) option defaultVal = value := by
  simp [getFlagVal]

theorem getFlagVal_cons_of_ne (h : x ≠ option) :
    getFlagVal (x :: args) option defaultVal = getFlagVal args option defaultVal := by
  simp [getFlagVal, List.dropWhile_cons, h]

end Args

/-! ### The round trip -/

/-- The options `parse_command_options` looks for. -/
def optionNames : List String :=
  ["-h", "--help", "--print-pairs", "--show-introspection", "--bridge-all-topics",
    "--bridge-all-1to2-topics", "--bridge-all-2to1-topics", "--topic-regex-list",
    "--service-regex-list", "--node-suffix"]

/-- A flag on the command line, when it is on. -/
def flagArg (name : String) (enabled : Bool) : List String :=
  if enabled then [name] else []

@[simp] theorem mem_flagArg {x name : String} {enabled : Bool} :
    x ∈ flagArg name enabled ↔ x = name ∧ enabled = true := by
  cases enabled <;> simp [flagArg]

theorem getFlagVal_flagArg_append {args : List String} {option defaultVal name : String}
    (h : name ≠ option) (enabled : Bool) :
    getFlagVal (flagArg name enabled ++ args) option defaultVal = getFlagVal args option defaultVal := by
  cases enabled
  · rfl
  · exact getFlagVal_cons_of_ne h

/-- A command line that asks for `o`: the program name, the flags `o` turns on, and each value
after its option. -/
def commandLine (program : String) (o : CommandOptions) : List String :=
  program :: (flagArg "--show-introspection" o.outputTopicIntrospection ++
    flagArg "--bridge-all-1to2-topics" o.bridgeAll1to2Topics ++
    flagArg "--bridge-all-2to1-topics" o.bridgeAll2to1Topics ++
    ["--topic-regex-list", o.topicRgxpListParam, "--service-regex-list", o.srvRgxpListParam,
      "--node-suffix", o.nodeSuffix])

/-- **The command line round trip.** Rendering options whose three values, like the program
name, are no option name, and parsing the result, gives the options back. -/
theorem parseCommandOptions_commandLine (program : String) (o : CommandOptions)
    (hprogram : program ∉ optionNames) (htopic : o.topicRgxpListParam ∉ optionNames)
    (hsrv : o.srvRgxpListParam ∉ optionNames) (hsuffix : o.nodeSuffix ∉ optionNames) :
    parseCommandOptions (commandLine program o) = some o := by
  obtain ⟨intro, all12, all21, topic, srv, suffix⟩ := o
  simp only [optionNames, List.mem_cons, List.not_mem_nil, or_false, not_or, @eq_comm _ program,
    @eq_comm _ topic, @eq_comm _ srv, @eq_comm _ suffix] at hprogram htopic hsrv hsuffix
  simp [parseCommandOptions, findCommandOption, getFlagOption, commandLine,
    getFlagVal_cons_of_ne, getFlagVal_flagArg_append, getFlagVal_cons_self, hprogram, htopic, hsrv,
    hsuffix, @eq_comm _ program, @eq_comm _ topic, @eq_comm _ srv]

/-- Options that set every flag but bridge-all-topics, and name their own parameters. -/
def sampleOptions : CommandOptions :=
  ⟨true, true, false, "my_topics_re", "my_services_re", "robot"⟩

theorem parseCommandOptions_commandLine_sample :
    ("dynamic_whitelist_bridge" ∉ optionNames ∧ sampleOptions.topicRgxpListParam ∉ optionNames ∧
      sampleOptions.srvRgxpListParam ∉ optionNames ∧ sampleOptions.nodeSuffix ∉ optionNames) ∧
    parseCommandOptions (commandLine "dynamic_whitelist_bridge" sampleOptions) =
      some sampleOptions :=
  ⟨⟨by decide, by decide, by decide, by decide⟩, parseCommandOptions_commandLine
    "dynamic_whitelist_bridge" sampleOptions (by decide) (by decide) (by decide) (by decide)⟩

/-! ### `whitelist_map` -/

/-- The patterns `main` reads for one parameter: those of the array, compiled in order, or none
when the parameter does not exist or is not an array; `none` when a pattern does not compile
(`std::regex_error` escapes `main`). `getParam` is `ros1_node.getParam` with the type check:
the array's strings, or `none`. -/
def resolveRegexList (getParam : String → Option (List String)) (compile : String → Option ρ)
    (param : String) : Option (List ρ) :=
  match getParam param with
  | some rgxps => rgxps.mapM compile
  | none => some []

/-- One iteration of `// resolve set params from param server`, at `element`: the parameter's
compiled patterns are appended to the element's list. -/
def resolveWhitelistEntry (getParam : String → Option (List String))
    (compile : String → Option ρ) (whitelistMap : StrMap (List ρ))
    (element : Σ _ : String, List ρ) : Option (StrMap (List ρ)) :=
  (resolveRegexList getParam compile element.1).map fun rgxps ↦
    whitelistMap.insert element.1 (element.2 ++ rgxps)

/-- `whitelist_map` as `main` builds and resolves it: an empty list for each parameter name, a
single entry when both options name the same parameter, then each entry filled from the
parameter server. -/
def resolveWhitelistMap (getParam : String → Option (List String)) (compile : String → Option ρ)
    (topicRgxpListParam srvRgxpListParam : String) : Option (StrMap (List ρ)) :=
  let whitelistMap : StrMap (List ρ) :=
    ((∅ : StrMap (List ρ)).insert topicRgxpListParam []).insert srvRgxpListParam []
  whitelistMap.entries.foldlM (resolveWhitelistEntry getParam compile) whitelistMap

/-- The configuration the pollers run with: the lists `whitelist_map` holds for the two
parameters, the bridge-all flags of the command line, and the ROS 1 node's name, which ROS 1
resolves from `"ros12_bridge_" + node_suffix`, the namespace and any remapping. -/
def bridgeConfig (regexMatch : String → ρ → Bool) (getParam : String → Option (List String))
    (compile : String → Option ρ) (nodeName : String) (o : CommandOptions) :
    Option (BridgeConfig ρ) :=
  (resolveWhitelistMap getParam compile o.topicRgxpListParam o.srvRgxpListParam).map
    fun whitelistMap ↦
      { regexMatch
        topicRegexList := (whitelistMap.lookup o.topicRgxpListParam).getD []
        serviceRegexList := (whitelistMap.lookup o.srvRgxpListParam).getD []
        bridgeAll1to2Topics := o.bridgeAll1to2Topics
        bridgeAll2to1Topics := o.bridgeAll2to1Topics
        nodeName }

section Whitelists

variable {getParam : String → Option (List String)} {compile : String → Option ρ}

/-- The resolution loop fills each entry independently. -/
theorem resolveWhitelistEntry_pointwiseM :
    PointwiseM (resolveWhitelistEntry getParam compile)
      fun k a _ ↦ (resolveRegexList getParam compile k).map fun rgxps ↦ some (a ++ rgxps) := by
  refine fun m e ↦ ⟨by simp [resolveWhitelistEntry], fun m' h k ↦ ?_⟩
  obtain ⟨rgxps, hr, rfl⟩ := Option.map_eq_some'.1 h
  by_cases hk : k = e.1
  · subst hk
    simp [hr, AList.lookup_insert]
  · simp [hk, AList.lookup_insert_ne hk]

/-- Each parameter the options name ends with its compiled patterns in `whitelist_map`. -/
theorem lookup_resolveWhitelistMap {p q k : String} {whitelistMap : StrMap (List ρ)}
    (h : resolveWhitelistMap getParam compile p q = some whitelistMap) (hk : k = p ∨ k = q) :
    ∃ rgxps, resolveRegexList getParam compile k = some rgxps ∧
      whitelistMap.lookup k = some rgxps := by
  have hinit : (((∅ : StrMap (List ρ)).insert p []).insert q []).lookup k = some [] := by
    by_cases hkq : k = q
    · rw [hkq, AList.lookup_insert]
    · rw [AList.lookup_insert_ne hkq, hk.resolve_right hkq, AList.lookup_insert]
  have hsome := (isSome_foldlM_of_pointwiseM resolveWhitelistEntry_pointwiseM _ _).1
    (Option.isSome_iff_exists.2 ⟨_, h⟩) ⟨k, []⟩ (AList.mem_lookup_iff.1 hinit)
  rw [Option.isSome_map'] at hsome
  obtain ⟨rgxps, hr⟩ := Option.isSome_iff_exists.1 hsome
  refine ⟨rgxps, hr, ?_⟩
  rw [lookup_foldlM_of_pointwiseM resolveWhitelistEntry_pointwiseM _ h k, hinit]
  simp [hr]

/-- **The whitelists `main` configures** are the compiled patterns of the parameters the two
options name: empty for a parameter that is unset or not an array, and the same list when both
options name one parameter. -/
theorem bridgeConfig_regexLists {regexMatch : String → ρ → Bool} {nodeName : String}
    {o : CommandOptions} {cfg : BridgeConfig ρ}
    (h : bridgeConfig regexMatch getParam compile nodeName o = some cfg) :
    resolveRegexList getParam compile o.topicRgxpListParam = some cfg.topicRegexList ∧
      resolveRegexList getParam compile o.srvRgxpListParam = some cfg.serviceRegexList := by
  obtain ⟨whitelistMap, hm, rfl⟩ := Option.map_eq_some'.1 h
  obtain ⟨rt, hrt, hlt⟩ := lookup_resolveWhitelistMap hm (.inl rfl)
  obtain ⟨rs, hrs, hls⟩ := lookup_resolveWhitelistMap hm (.inr rfl)
  simp [hrt, hlt, hrs, hls]

end Whitelists

/-- **An unset whitelist parameter turns its kind of bridging off.** When the parameter that
`--topic-regex-list` names is unset on the ROS 1 parameter server, or is not an array, no state
that an interleaving of the two pollers reaches bridges any topic, whatever the masters, the
graphs and the factories answer; likewise for `--service-regex-list` and services. -/
theorem unset_whitelist_bridges_nothing (regexMatch : String → ρ → Bool)
    (getParam : String → Option (List String)) (compile : String → Option ρ) (nodeName : String)
    (o : CommandOptions) (cfg : BridgeConfig ρ)
    (hcfg : bridgeConfig regexMatch getParam compile nodeName o = some cfg)
    (s : BridgeState H12 H21 S12 S21) (hr : Reachable cfg s) (name : String) :
    (getParam o.topicRgxpListParam = none →
      name ∉ s.registry.bridges1to2 ∧ name ∉ s.registry.bridges2to1) ∧
    (getParam o.srvRgxpListParam = none →
      name ∉ s.registry.serviceBridges1To2 ∧ name ∉ s.registry.serviceBridges2To1) := by
  obtain ⟨ht, hs⟩ := bridgeConfig_regexLists hcfg
  have hw := hr.invariant.registry
  have hnone : ∀ {l : List ρ}, some [] = some l → ¬Admits cfg.regexMatch l name := by
    rintro l ⟨⟩ ⟨r, hr, -⟩
    exact List.not_mem_nil r hr
  refine ⟨fun hp ↦ ?_, fun hp ↦ ?_⟩
  · rw [resolveRegexList, hp] at ht
    exact ⟨fun h ↦ hnone ht (hw.bridges1to2 name h), fun h ↦ hnone ht (hw.bridges2to1 name h)⟩
  · rw [resolveRegexList, hp] at hs
    exact ⟨fun h ↦ hnone hs (hw.serviceBridges1To2 name h),
      fun h ↦ hnone hs (hw.serviceBridges2To1 name h)⟩

/-- A parameter server on which no parameter is set. -/
def noParams : String → Option (List String) :=
  fun _ ↦ none

/-- The configuration `main` builds from `sampleOptions` with no parameter set. -/
def unsetConfig : BridgeConfig Unit :=
  ⟨fun _ _ ↦ true, [], [], true, false, "/ros12_bridge_robot"⟩

/-- The state the populated run leaves under `unsetConfig`: every name it offers is refused. -/
def unsetState : BridgeState Unit Unit Unit Unit :=
  (run unsetConfig BridgeState.init (populatedRos2Events ++ populatedRos1Events)).getD
    BridgeState.init

theorem unset_whitelist_bridges_nothing_populated :
    (bridgeConfig (fun _ _ ↦ true) noParams (fun _ ↦ some ()) "/ros12_bridge_robot"
        sampleOptions = some unsetConfig ∧ Reachable unsetConfig unsetState) ∧
    ∀ name, (noParams sampleOptions.topicRgxpListParam = none →
        name ∉ unsetState.registry.bridges1to2 ∧ name ∉ unsetState.registry.bridges2to1) ∧
      (noParams sampleOptions.srvRgxpListParam = none →
        name ∉ unsetState.registry.serviceBridges1To2 ∧
          name ∉ unsetState.registry.serviceBridges2To1) :=
  have hr : Reachable unsetConfig unsetState := Reachable.run unsetConfig .init
    (rfl : run unsetConfig BridgeState.init (populatedRos2Events ++ populatedRos1Events) =
      some unsetState)
  ⟨⟨rfl, hr⟩, unset_whitelist_bridges_nothing (fun _ _ ↦ true) noParams (fun _ ↦ some ())
    "/ros12_bridge_robot" sampleOptions unsetConfig rfl unsetState hr⟩

end WhitelistBridge
