import ObcFlight.CommandIngressMux
import ObcFlight.NoReplay
import ObcFlight.ForgedCommands
import ObcFlight.UploadConfinement
import ObcFlight.ObserverLock
import ObcFlight.SessionWindow
import ObcFlight.ThreeWayAgreement
import ObcFlight.HonestGround
import ObcFlight.BootPersistence
import ObcFlight.RecoveryUncleared
import ObcFlight.RecoveryPending
import ObcFlight.WatchdogRecovery
import ObcFlight.ModeGraph
import ObcFlight.ModeInterleaving
import ObcFlight.SequenceRelease
import ObcFlight.CommandAnswers
import ObcFlight.DownlinkDataV3Codec
import ObcFlight.CommNodeDrain
import ObcFlight.FdirDetectors
import ObcFlight.StateDataCrc
import ObcFlight.CommandFreshnessStore
import ObcFlight.StorageScanner
import ObcFlight.HkTrendProductProducer
import ObcFlight.TtcSuppression
import ObcFlight.SerialGpsSource
import ObcFlight.ByteStreamTransport
import ObcFlight.PayloadPower
