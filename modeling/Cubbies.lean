import Cubbies.Lib.Runs
import Cubbies.Lib.Refinement
import Cubbies.Lib.ShiftRegister
import Cubbies.Lib.CString
import Cubbies.Lib.Decimal
import Cubbies.Lib.BlockBuffer
import Cubbies.Lib.WhileLoop
import Cubbies.Lib.SaturatingBuffer
import Cubbies.Lib.DroppingBuffer
import Cubbies.Lib.FilledArray
import Cubbies.Lib.JsonText
import Cubbies.Json
import Cubbies.SdCard
import Cubbies.TimeSpent
import Cubbies.Crc16
import Cubbies.Wifi
import Cubbies.Http
import Cubbies.Downloader
import Cubbies.Qbus
import Cubbies.Box
import Cubbies.System
import Cubbies.Tasks
import Cubbies.Pipeline
import Cubbies.Stack
import Cubbies.Session
import Cubbies.Progress
import Cubbies.Ble
import Cubbies.Proofs.ToyWrites
import Cubbies.Proofs.Stages
import Cubbies.Proofs.AudioStage
import Cubbies.Proofs.AudioFile
import Cubbies.Proofs.AudioHeader
import Cubbies.Proofs.HeaderCarried
import Cubbies.Proofs.VerifyMarker
import Cubbies.Proofs.VerifyComplete
import Cubbies.Proofs.AudioListing
import Cubbies.Proofs.OwnFolder
import Cubbies.Proofs.MasterJsonLeak
import Cubbies.Proofs.CredentialsFresh
import Cubbies.Proofs.QbusReception
import Cubbies.Proofs.FrameCheck
import Cubbies.Proofs.BufferBounds
import Cubbies.Proofs.ReplyIntegrity
import Cubbies.Proofs.ReplyFrame
import Cubbies.Proofs.ReceivedStream
import Cubbies.Proofs.BoxSteps
import Cubbies.Proofs.PlayerFrame
import Cubbies.Proofs.TaskSteps
import Cubbies.Proofs.ProfileFrame
import Cubbies.Proofs.Shutdown
import Cubbies.Proofs.ReturnState
import Cubbies.Proofs.WaitDiscipline
import Cubbies.Proofs.Questions
import Cubbies.Proofs.Completions
import Cubbies.Proofs.ContentOfToy
import Cubbies.Proofs.PlaylistOrder
import Cubbies.Proofs.ResumeWindow
import Cubbies.Proofs.WaitsForAudio
import Cubbies.Proofs.Registration
import Cubbies.Proofs.UserSlots
import Cubbies.Proofs.DirectionSave
import Cubbies.Proofs.ErrorStatus
import Cubbies.Proofs.DirectionFile
import Cubbies.Proofs.ColourTheme
import Cubbies.Proofs.MetadataFile
import Cubbies.Proofs.MetadataLists
import Cubbies.Proofs.LinkStatus
import Cubbies.Proofs.LowBattery
import Cubbies.Proofs.PlaylistAccess
import Cubbies.Proofs.TagTracking
import Cubbies.Proofs.PayloadBytes
import Cubbies.Proofs.BoxToken
import Cubbies.Proofs.DownloaderSteps
import Cubbies.Proofs.RequestEffects
import Cubbies.Proofs.CredentialsRestored
import Cubbies.Proofs.UseCount
import Cubbies.Proofs.UserIdRoundTrip
import Cubbies.Proofs.EarSymmetry
import Cubbies.Proofs.Interruption
import Cubbies.Proofs.MessageFields
import Cubbies.Proofs.VerificationRequest
import Cubbies.Proofs.ChunkBuffering
import Cubbies.Proofs.DirectoryCreation
import Cubbies.Proofs.VolumeButtons
import Cubbies.Proofs.Initialisation
import Cubbies.Proofs.StackRefinement
import Cubbies.Proofs.PowerOff
import Cubbies.Proofs.IdleTimeout
import Cubbies.Proofs.DownloadConfined
import Cubbies.Proofs.CardOwnership
import Cubbies.Proofs.Durability
import Cubbies.Proofs.BleClient
import Cubbies.Proofs.PlaylistProgress
import Cubbies.Proofs.AudioKept
import Cubbies.Proofs.Transport
import Cubbies.Proofs.BusSession
import Cubbies.Proofs.ToyIsolation
import Cubbies.Proofs.DownloadProgress
import Cubbies.Proofs.DownloadAdvances
import Cubbies.Proofs.LiveSessions
import Cubbies.Proofs.DownloadEnds
