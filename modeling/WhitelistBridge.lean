import WhitelistBridge.Map
import WhitelistBridge.Whitelist
import WhitelistBridge.Model
import WhitelistBridge.TopicPass
import WhitelistBridge.ServicePass
import WhitelistBridge.UpdateBridge
import WhitelistBridge.ServiceInfo
import WhitelistBridge.Ros1Poll
import WhitelistBridge.Ros2Poll
import WhitelistBridge.System
import WhitelistBridge.Ros1Cycle
import WhitelistBridge.Ros2Cycle
import WhitelistBridge.Lifetime
import WhitelistBridge.Options
