import EnvMonitor.Gateway.CircularFlashLog.Resurrection
import EnvMonitor.Gateway.StoreAndForward.DropOldest
import EnvMonitor.Gateway.FirmwareStore.Supervision
import EnvMonitor.Gateway.ModbusPoller.Delivery
import EnvMonitor.Gateway.ModbusPoller.Exchange
import EnvMonitor.Gateway.TimeService.Push
import EnvMonitor.Gateway.TimeService.Sync
import EnvMonitor.Gateway.CloudPublisher.AtLeastOnce
import EnvMonitor.Gateway.CloudPublisher.AlarmOrder
import EnvMonitor.Gateway.CloudPublisher.SubscriptionProgress
import EnvMonitor.FieldDevice.FrameBytes
import EnvMonitor.FieldDevice.Commands
import EnvMonitor.FieldDevice.ConfigStore.Committed
import EnvMonitor.Gateway.ConfigService.Loaded
import EnvMonitor.Gateway.ConfigService.Pending
import EnvMonitor.Gateway.DeviceProfileRegistry
import EnvMonitor.Gateway.ModbusMaster.Retries
import EnvMonitor.ConsoleCommit
import EnvMonitor.Gateway.CircularFlashLog.LocalDamage
import EnvMonitor.Gateway.TimeProvider.RoundTrip
import EnvMonitor.Gateway.CloudPublisher.ConfigScan
import EnvMonitor.Drivers.WifiDriver
import EnvMonitor.FieldDevice.SensorService.FilterSettles
import EnvMonitor.Gateway.SensorService.FilterSettles
import EnvMonitor.AlarmEvents
import EnvMonitor.FieldDevice.SensorService.Cycle
import EnvMonitor.Gateway.ModbusPoller.LinkFlag
import EnvMonitor.Gateway.CloudPublisher.PoisonDrop
import EnvMonitor.FieldDevice.ConfigService.Loaded
import EnvMonitor.FieldDevice.ModbusSlave.Answered
import EnvMonitor.FieldDevice.MultiRead
import EnvMonitor.SessionTimeouts
import EnvMonitor.Gateway.ConsoleTyped
import EnvMonitor.FieldDevice.LatestLine
import EnvMonitor.Drivers.ModbusUartFrames
import EnvMonitor.Gateway.NtpReply
import EnvMonitor.Gateway.Fmt
import EnvMonitor.Drivers.HumidityTemp
import EnvMonitor.Gateway.FirmwareStore.Release
import EnvMonitor.Gateway.CloudPublisher.PublishedJson
import EnvMonitor.Gateway.ConfigStore.Committed
import EnvMonitor.Gateway.UpdateService.Runs
