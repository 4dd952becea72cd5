import RvIommuTests.Lib.Bytes
import RvIommuTests.Lib.Copies
import RvIommuTests.Lib.Regions
import RvIommuTests.Lib.Fields
import RvIommuTests.Lib.Loops
import RvIommuTests.Lib.Prog
import RvIommuTests.Lib.Rely
import RvIommuTests.Lib.Wp
import RvIommuTests.Lib.Ring
import RvIommuTests.Lib.Spill
import RvIommuTests.Lib.Hart
import RvIommuTests.Lib.TwoRuns
import RvIommuTests.Lib.Tables
import RvIommuTests.Lib.Paging
import RvIommuTests.Lib.DeadEntries
import RvIommuTests.Platform
import RvIommuTests.Memcpy
import RvIommuTests.Trap.Context
import RvIommuTests.Trap.Priv
import RvIommuTests.Trap.Handlers
import RvIommuTests.Trap.Requests
import RvIommuTests.Commands
import RvIommuTests.CommandLayout
import RvIommuTests.Iommu
import RvIommuTests.Queues
import RvIommuTests.QueueEnv
import RvIommuTests.QueueSizes
import RvIommuTests.PageTables
import RvIommuTests.AddressMap
import RvIommuTests.DeviceContext
import RvIommuTests.ContextLayout
import RvIommuTests.DeviceIds
import RvIommuTests.Tests
import RvIommuTests.DebugInterface
import RvIommuTests.MsiTable
import RvIommuTests.Harness
import RvIommuTests.Idma
import RvIommuTests.DmaDevice
import RvIommuTests.TestIo
import RvIommuTests.DdtCache
import RvIommuTests.Iotlb
import RvIommuTests.StaleEntries
import RvIommuTests.Lemmas.DeviceContext
import RvIommuTests.Lemmas.DdtCache
import RvIommuTests.Lemmas.Iotlb
import RvIommuTests.Lemmas.IotlbRuns
import RvIommuTests.Lemmas.Switches
import RvIommuTests.Theorems.DdtCache
import RvIommuTests.Theorems.Iotlb
import RvIommuTests.Lemmas.CommandLayout
import RvIommuTests.Lemmas.Context
import RvIommuTests.Lemmas.Priv
import RvIommuTests.Lemmas.Goto
import RvIommuTests.Lemmas.Requests
import RvIommuTests.Lemmas.History
import RvIommuTests.Lemmas.Queues
import RvIommuTests.Lemmas.CommandQueue
import RvIommuTests.Lemmas.FaultQueue
import RvIommuTests.Lemmas.QueueInit
import RvIommuTests.Lemmas.PageTables
import RvIommuTests.Lemmas.Walks
import RvIommuTests.Configurations
import RvIommuTests.TestBodies
import RvIommuTests.Transfers
import RvIommuTests.Notifications
import RvIommuTests.Verdicts
import RvIommuTests.Latency
import RvIommuTests.Lemmas.TestContracts
import RvIommuTests.Lemmas.Transfers
import RvIommuTests.Lemmas.Notifications
import RvIommuTests.Lemmas.Verdicts
import RvIommuTests.Lemmas.Latency
import RvIommuTests.Theorems.Context
import RvIommuTests.Theorems.Commands
import RvIommuTests.Theorems.CommandQueue
import RvIommuTests.Theorems.FaultQueue
import RvIommuTests.Theorems.QueueInit
import RvIommuTests.Theorems.QueueSizes
import RvIommuTests.Theorems.Goto
import RvIommuTests.Theorems.Requests
import RvIommuTests.Theorems.Transfers
import RvIommuTests.Theorems.Notifications
import RvIommuTests.Theorems.Verdicts
import RvIommuTests.Theorems.Latency
import RvIommuTests.Theorems.DmaDevice
import RvIommuTests.Theorems.Handlers
import RvIommuTests.Theorems.History
import RvIommuTests.Theorems.AddressMap
import RvIommuTests.Theorems.Configurations
import RvIommuTests.Lemmas.StaleEntries
import RvIommuTests.Theorems.Switches
import RvIommuTests.Theorems.StaleEntries
import RvIommuTests.Theorems.DeviceContext
import RvIommuTests.Theorems.DeviceIds
import RvIommuTests.Theorems.DebugInterface
import RvIommuTests.Theorems.PpnEncoding
import RvIommuTests.Theorems.MsiTable
import RvIommuTests.Theorems.Memcpy
import RvIommuTests.Theorems.Harness
import RvIommuTests.Theorems.Console
import RvIommuTests.Theorems.Startup
import RvIommuTests.Theorems.RegisterMap
import RvIommuTests.RequestMap
import RvIommuTests.Lemmas.RequestMap
import RvIommuTests.Theorems.RequestMap
import RvIommuTests.DebugMap
import RvIommuTests.Lemmas.DebugMap
import RvIommuTests.Theorems.DebugMap
import RvIommuTests.Soc
import RvIommuTests.Lemmas.Flawless
import RvIommuTests.Lemmas.Soc
import RvIommuTests.Lemmas.SocTests
import RvIommuTests.Theorems.Soc
import RvIommuTests.Main
import RvIommuTests.Lemmas.Main
import RvIommuTests.Theorems.Main
