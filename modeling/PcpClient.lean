import PcpClient.ConnectOutcome
import PcpClient.ConnectorProgress
import PcpClient.InvalidMessages
import PcpClient.SessionRelease
import PcpClient.MessageOperations
import PcpClient.ErrorMessages
import PcpClient.AssociationSoundness
import PcpClient.MonitoringRestart
import PcpClient.MonitoringFailures
import PcpClient.PongTimeouts
import PcpClient.BrokerFailover
import PcpClient.EventHandlers
import PcpClient.ParserSafety
import PcpClient.ChunkSizes
import PcpClient.ParsedContent
import PcpClient.SubSchemas
import PcpClient.SessionTimings
import PcpClient.Backoff
import PcpClient.FieldSequence
import PcpClient.PingInterval
import PcpClient.ErrorPolicy
import PcpClient.OpenNotification
import PcpClient.AssociationWakeUp
import PcpClient.AssociationRecord
import PcpClient.ConnectionIntervals
import PcpClient.OverallDurations
import PcpClient.ConcurrentValidator
import PcpClient.ConnectTermination
import PcpClient.WireFraming
import PcpClient.ConnectionSessions
import PcpClient.ConnectionTeardown
import PcpClient.MessageDelivery
import PcpClient.MonitoringStop
import PcpClient.AssociationTermination
import PcpClient.AttemptSpacing
import PcpClient.StopInConnect
