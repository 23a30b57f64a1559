import WhitelistBridge.Whitelist

/-!
# The bridge's data model

What `main` of `dynamic_whitelist_bridge.cpp` sets up before the two pollers start:

* the configuration fixed for the process lifetime (`BridgeConfig`): the two whitelists read
  from the ROS 1 parameter server, the bridge-all flags of the command line and the bridge's
  own ROS 1 node name;
* the six inventory snapshots the pollers publish (`Snapshots`) and the four bridge
  registries `update_bridge` maintains (`Registry`), all guarded by `g_bridge_mutex`;
* the external collaborators `update_bridge` calls (`Factories`): the type mappings of
  bridge-all mode, the topic and service bridge factories, and the two primitives that
  release a service bridge.

## Collaborators are functions

A factory that throws `std::runtime_error` is a function returning `none`. A call is
determined by its arguments; since every loop of `update_bridge` visits a name at most
once, a function of the arguments is as general as an arbitrary outcome per call within
one call of `update_bridge`, and a run may change the functions between calls
(`Factories` is part of each reconciliation event). Handles are opaque: `H12`, `H21` for
topic bridges, `S12`, `S21` for service bridges.
-/

namespace WhitelistBridge

/-- The configuration `main` fixes before polling starts. -/
structure BridgeConfig (ρ : Type) where
  /-- `std::regex_match(name, rgxp)`. -/
  regexMatch : String → ρ → Bool
  /-- `whitelist_map[topic_rgxp_list_param]`. -/
  topicRegexList : List ρ
  /-- `whitelist_map[srv_rgxp_list_param]`. -/
  serviceRegexList : List ρ
  /-- `--bridge-all-topics` or `--bridge-all-1to2-topics`. -/
  bridgeAll1to2Topics : Bool
  /-- `--bridge-all-topics` or `--bridge-all-2to1-topics`. -/
  bridgeAll2to1Topics : Bool
  /-- `ros::this_node::getName()`. -/
  nodeName : String

/-- The fields of a service snapshot entry, a `std::map<std::string, std::string>`:
`"package"` and `"name"`, and `"type"` for a ROS 1 service. -/
abbrev ServiceDetails := StrMap String

/-- The six inventory snapshots: topic name to type name for publishers and subscribers
of each domain, and service name to its details. -/
structure Snapshots where
  ros1Publishers : StrMap String
  ros1Subscribers : StrMap String
  ros2Publishers : StrMap String
  ros2Subscribers : StrMap String
  ros1Services : StrMap ServiceDetails
  ros2Services : StrMap ServiceDetails

/-- The empty snapshots `main` starts with. -/
def Snapshots.empty : Snapshots := ⟨∅, ∅, ∅, ∅, ∅, ∅⟩

/-- `Bridge1to2HandlesAndMessageTypes` and `Bridge2to1HandlesAndMessageTypes`: the handles
of a live topic bridge and the two types it was created with. -/
structure BridgeHandlesAndMessageTypes (H : Type) where
  bridgeHandles : H
  ros1TypeName : String
  ros2TypeName : String
deriving DecidableEq

/-- The four bridge registries. -/
structure Registry (H12 H21 S12 S21 : Type) where
  bridges1to2 : StrMap (BridgeHandlesAndMessageTypes H12)
  bridges2to1 : StrMap (BridgeHandlesAndMessageTypes H21)
  serviceBridges1To2 : StrMap S12
  serviceBridges2To1 : StrMap S21

/-- The empty registries `main` starts with. -/
def Registry.empty {H12 H21 S12 S21 : Type} : Registry H12 H21 S12 S21 := ⟨∅, ∅, ∅, ∅⟩

/-- A `ros1_bridge::ServiceFactoryInterface`: builds the service bridge of one direction
for a service name, or throws. -/
structure ServiceFactory (S12 S21 : Type) where
  /-- `service_bridge_1_to_2(ros1_node, ros2_node, name)`. -/
  serviceBridge1To2 : String → Option S12
  /-- `service_bridge_2_to_1(ros1_node, ros2_node, name)`. -/
  serviceBridge2To1 : String → Option S21

/-- The collaborators `update_bridge` calls. -/
structure Factories (H12 H21 S12 S21 : Type) where
  /-- `get_1to2_mapping(ros1_type_name, ros2_type_name)`. -/
  get1to2Mapping : String → Option String
  /-- `get_2to1_mapping(ros2_type_name, ros1_type_name)`. -/
  get2to1Mapping : String → Option String
  /-- `create_bridge_from_1_to_2` at a ROS 1 type, a topic and a ROS 2 type. -/
  createBridgeFrom1To2 : String → String → String → Option H12
  /-- `create_bridge_from_2_to_1` at a ROS 2 type, a topic and a ROS 1 type. -/
  createBridgeFrom2To1 : String → String → String → Option H21
  /-- `get_service_factory(domain, package, name)`; `none` is a null pointer. -/
  getServiceFactory : String → String → String → Option (ServiceFactory S12 S21)
  /-- `service_bridges_2_to_1.erase(it)` completes rather than throwing. -/
  removeServiceBridge2To1 : String → S21 → Bool
  /-- `it->second.server.shutdown()` and `service_bridges_1_to_2.erase(it)` complete rather
  than throwing. -/
  removeServiceBridge1To2 : String → S12 → Bool

end WhitelistBridge
