import ModbusStack.Crc16
import ModbusStack.CrcAgreement
import ModbusStack.DataModel
import ModbusStack.DeviceId
import ModbusStack.FileRecord
import ModbusStack.Mei
import ModbusStack.SlotTable
import ModbusStack.MeiRegistry
import ModbusStack.Pdu
import ModbusStack.NoEffect
import ModbusStack.Machine
import ModbusStack.RegisterBank
import ModbusStack.RegisterMap
import ModbusStack.Diagnostics
import ModbusStack.RtuAdu
import ModbusStack.DiagnosticsOutcome
import ModbusStack.ListenOnly
import ModbusStack.LockTrace
import ModbusStack.LockDiscipline
import ModbusStack.ResponseBounds
import ModbusStack.RtuOutcome
import ModbusStack.GreedyPages
import ModbusStack.SortedTable
import ModbusStack.DeviceIdStore
import ModbusStack.ConfigStores
import ModbusStack.FileRecordReads
import ModbusStack.FileRecordWrites
import ModbusStack.DeviceIdPages
import ModbusStack.RtuReceiver
import ModbusStack.RtuFraming
import ModbusStack.TickCount
import ModbusStack.SerialTiming
import ModbusStack.RealTimeFraming
import ModbusStack.RtuOwnership
import ModbusStack.StreamFraming
import ModbusStack.InBounds
import ModbusStack.TransportAgreement
import ModbusStack.BroadcastFrames
import ModbusStack.PolicyGate
import ModbusStack.SlaveRuns
import ModbusStack.WellFormedResponses
import ModbusStack.DiagnosticsAccounting
import ModbusStack.DownwardRing
import ModbusStack.EventLog
import ModbusStack.TcpServer
import ModbusStack.TcpReassembly
import ModbusStack.TcpConnections
import ModbusStack.MasterRequest
import ModbusStack.MasterResponse
import ModbusStack.DeviceIdGrammar
import ModbusStack.MasterDecode
import ModbusStack.ViewBounds
import ModbusStack.DecodableResponses
import ModbusStack.Transaction
import ModbusStack.TransactionRuns
import ModbusStack.TransactionCounters
import ModbusStack.TransactionResults
import ModbusStack.TransactionClock
import ModbusStack.WireRequest
import ModbusStack.RequestChecks
import ModbusStack.RequestCoherence
import ModbusStack.Exchange
import ModbusStack.ExchangedData
import ModbusStack.ExchangedFiles
import ModbusStack.ExchangedIds
import ModbusStack.ExchangedObjects
import ModbusStack.ExchangedDiagnostics
import ModbusStack.RoundTrip
import ModbusStack.PolynomialCode
import ModbusStack.CrcErrors
import ModbusStack.Retransmission
import ModbusStack.RepeatedRequests
import ModbusStack.SerialLine
import ModbusStack.LineTransactions
import ModbusStack.LineResults
import ModbusStack.LineFailures
import ModbusStack.MasterApp
import ModbusStack.MasterTransactions
import ModbusStack.MasterInvariant
import ModbusStack.MasterCycles
import ModbusStack.MasterOnLine
import ModbusStack.MasterWrites
import ModbusStack.MasterFraming
import ModbusStack.MasterWindow
import ModbusStack.SocketServer
import ModbusStack.SocketRuns
