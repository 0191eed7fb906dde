import StatusListPlugin.Python
import StatusListPlugin.Decimal
import StatusListPlugin.Models
import StatusListPlugin.Storage
import StatusListPlugin.Controllers.Definition
import StatusListPlugin.Controllers.Entry
import StatusListPlugin.Controllers.StatusList
import StatusListPlugin.Routes
import StatusListPlugin.Layout
import StatusListPlugin.Consistent
import StatusListPlugin.Allocation
import StatusListPlugin.Sizes
import StatusListPlugin.Allocator
import StatusListPlugin.Bitarray
import StatusListPlugin.Controllers.Publisher
import StatusListPlugin.Published
import StatusListPlugin.Concurrency
import StatusListPlugin.SlotOrder
import StatusListPlugin.Assigned
import StatusListPlugin.Failures
import StatusListPlugin.Patching
import StatusListPlugin.Controllers.Search
import StatusListPlugin.Lookups
import StatusListPlugin.Footprint
import StatusListPlugin.Serializable
import StatusListPlugin.Serial
import StatusListPlugin.Durable
