import ConnmanUi.AgentReplies
import ConnmanUi.AgentRequests
import ConnmanUi.AgentRouting
import ConnmanUi.ArrayBuffer
import ConnmanUi.ByteBlock
import ConnmanUi.DictCodec
import ConnmanUi.FailedRequests
import ConnmanUi.GtkTechnologySwitch
import ConnmanUi.InputRequests
import ConnmanUi.Interface
import ConnmanUi.LeftMenu
import ConnmanUi.LeftMenuOrder
import ConnmanUi.LifecycleInit
import ConnmanUi.ListMessages
import ConnmanUi.ManagerRequests
import ConnmanUi.MenuPlacement
import ConnmanUi.PropertyAgreement
import ConnmanUi.ReferenceSlots
import ConnmanUi.RefreshHandle
import ConnmanUi.RegistryOps
import ConnmanUi.ServiceClosing
import ConnmanUi.ServiceConfig
import ConnmanUi.ServiceListing
import ConnmanUi.ServiceLists
import ConnmanUi.ServiceMirror
import ConnmanUi.SettingsDialog
import ConnmanUi.TechnologyListeners
import ConnmanUi.TechnologyScans
import ConnmanUi.TechnologyTable
import ConnmanUi.TechnologyUpdates
import ConnmanUi.WatchBound
import ConnmanUi.ServiceWatchTold
import ConnmanUi.RightMenuMirror
