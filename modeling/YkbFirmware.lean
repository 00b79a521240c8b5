import YkbFirmware.Library.TransitionSystem
import YkbFirmware.Library.WorkQueue
import YkbFirmware.Library.ByteMemory
import YkbFirmware.Library.Segmentation
import YkbFirmware.Library.ExclusiveToken
import YkbFirmware.Library.SlotArray
import YkbFirmware.Library.Bracketing
import YkbFirmware.Library.DecimalText
import YkbFirmware.Library.FirstMaximum
import YkbFirmware.Library.ShiftRegister
import YkbFirmware.Library.RoundedDivision
import YkbFirmware.Library.CyclicSearch
import YkbFirmware.Library.Tiling
import YkbFirmware.Library.RaggedTable
import YkbFirmware.Library.BitMask
import YkbFirmware.Library.Fallible
import YkbFirmware.Library.Conservation
import YkbFirmware.Library.DrainedQueue
import YkbFirmware.Library.SlotMap
import YkbFirmware.Library.Painting
import YkbFirmware.Library.Cbor
import YkbFirmware.Library.Conflation
import YkbFirmware.Protocol.Wire
import YkbFirmware.Protocol.Sender
import YkbFirmware.Protocol.Receiver
import YkbFirmware.Protocol.ReceiverInvariant
import YkbFirmware.Protocol.ReceiverStep
import YkbFirmware.Protocol.TransferReceipt
import YkbFirmware.Protocol.InOrderRoundTrip
import YkbFirmware.Protocol.OutOfOrderReassembly
import YkbFirmware.Protocol.ReceiverSafety
import YkbFirmware.Protocol.StaleBuffer
import YkbFirmware.Protocol.OpeningPacket
import YkbFirmware.Protocol.RejectedPacket
import YkbFirmware.Protocol.BurstErrors
import YkbFirmware.Protocol.MissingPackets
import YkbFirmware.VendorHid.Protocol
import YkbFirmware.VendorHid.Recovery
import YkbFirmware.VendorHid.Execution
import YkbFirmware.VendorHid.CarriedBytes
import YkbFirmware.VendorHid.ReadBounds
import YkbFirmware.KbHandler.Settings
import YkbFirmware.KbHandler.SettingsCheck
import YkbFirmware.KbHandler.Report
import YkbFirmware.KbHandler.Core
import YkbFirmware.KbHandler.Frames
import YkbFirmware.KbHandler.Transition
import YkbFirmware.KbHandler.PressedKeys
import YkbFirmware.KbHandler.StuckKey
import YkbFirmware.KbHandler.KeyValues
import YkbFirmware.KbHandler.ReportCodes
import YkbFirmware.KbHandler.RaceReport
import YkbFirmware.KbHandler.LayerFlags
import YkbFirmware.KbHandler.KeyEvents
import YkbFirmware.KbHandler.MouseRange
import YkbFirmware.KbHandler.MouseReports
import YkbFirmware.KbHandler.WheelMotion
import YkbFirmware.KbHandler.MouseRelease
import YkbFirmware.KbHandler.SlaveAdapter
import YkbFirmware.KbHandler.Coalescing
import YkbFirmware.KbHandler.SlaveReset
import YkbFirmware.KbHandler.ResetRelease
import YkbFirmware.KbHandler.CoreLoop
import YkbFirmware.KbHandler.Effects
import YkbFirmware.KbHandler.ConsumedKeys
import YkbFirmware.KbHandler.CoreThread
import YkbFirmware.KbHandler.DerivedState
import YkbFirmware.KbHandler.IndexUses
import YkbFirmware.KbHandler.Bounds
import YkbFirmware.KbHandler.Transport
import YkbFirmware.KbHandler.PressScaling
import YkbFirmware.KbHandler.ScriptCycling
import YkbFirmware.KbHandler.KscanTopology
import YkbFirmware.Kscan.Muxes
import YkbFirmware.Kscan.ScanAgreement
import YkbFirmware.Mux.MuxGpio
import YkbFirmware.Kscan.GpioDrivers
import YkbFirmware.SettingsStore.Store
import YkbFirmware.SettingsStore.Persistence
import YkbFirmware.SettingsStore.LostUpdate
import YkbFirmware.Backlight.ScriptSlots
import YkbFirmware.Backlight.SlotChecksum
import YkbFirmware.Backlight.SettingsUpdate
import YkbFirmware.Backlight.SlotSizes
import YkbFirmware.Backlight.KeyStorage
import YkbFirmware.Backlight.SettingsRace
import YkbFirmware.Backlight.Renderer
import YkbFirmware.Backlight.WholeFrames
import YkbFirmware.Backlight.BrightnessLimit
import YkbFirmware.Backlight.RunningScript
import YkbFirmware.Battsense.Callbacks
import YkbFirmware.Battsense.Lock
import YkbFirmware.VendorHid.Durability
import YkbFirmware.SplitLink.Connection
import YkbFirmware.SplitLink.Slots
import YkbFirmware.SplitLink.TransmitSlot
import YkbFirmware.SplitLink.ReceiveSlot
import YkbFirmware.SplitLink.Link
import YkbFirmware.SplitLink.Delivery
import YkbFirmware.SplitLink.TornMessage
import YkbFirmware.SplitLink.SettingsDelivery
import YkbFirmware.SplitLink.Transmission
import YkbFirmware.SplitLink.ValuesPipeline
import YkbFirmware.SplitLink.ScriptQueue
import YkbFirmware.SplitLink.ScriptDelivery
import YkbFirmware.SplitLink.ManifestExchange
import YkbFirmware.Esb.Driver
import YkbFirmware.Esb.Radio
import YkbFirmware.Esb.InOrder
import YkbFirmware.Esb.Progress
import YkbFirmware.Esb.AckCache
import YkbFirmware.Esb.Timeslot
import YkbFirmware.Esb.SlottedRadio
import YkbFirmware.Esb.RpcMessages
import YkbFirmware.Esb.RpcCommands
import YkbFirmware.Esb.RpcEvents
import YkbFirmware.Hci.Packets
import YkbFirmware.Hci.Bridge
import YkbFirmware.SplitLink.EsbLink
import YkbFirmware.SplitLink.EsbFrames
import YkbFirmware.SplitLink.BtReceive
import YkbFirmware.SplitLink.BtCentral
import YkbFirmware.SplitLink.BtPeripheral
import YkbFirmware.Scripts.PythonText
import YkbFirmware.Scripts.DefaultLayout
import YkbFirmware.Scripts.DefaultSettings
import YkbFirmware.Scripts.DefaultSettingsBoot
import YkbFirmware.BtConnect.Connections
import YkbFirmware.BtConnect.Reports
import YkbFirmware.BtConnect.Advertising
import YkbFirmware.BtConnect.BatteryLevel
import YkbFirmware.YkbPower.PowerThread
import YkbFirmware.Charger.Bq25185
import YkbFirmware.Mux.MuxGpio
