import Cwdaemon.Verified.Aborting
import Cwdaemon.Verified.Capacity
import Cwdaemon.Verified.Carets
import Cwdaemon.Verified.CommandLine
import Cwdaemon.Verified.Descriptors
import Cwdaemon.Verified.DevicePath
import Cwdaemon.Verified.Dialogue
import Cwdaemon.Verified.Draining
import Cwdaemon.Verified.EmptyCarets
import Cwdaemon.Verified.Footswitch
import Cwdaemon.Verified.Generators
import Cwdaemon.Verified.Justified
import Cwdaemon.Verified.KeyingCallback
import Cwdaemon.Verified.LineStates
import Cwdaemon.Verified.MainLoop
import Cwdaemon.Verified.Meaning
import Cwdaemon.Verified.NumericRequests
import Cwdaemon.Verified.Overtaking
import Cwdaemon.Verified.ParallelPort
import Cwdaemon.Verified.PendingReply
import Cwdaemon.Verified.PinOptions
import Cwdaemon.Verified.ReplyAfterText
import Cwdaemon.Verified.Requests
import Cwdaemon.Verified.Reset
import Cwdaemon.Verified.SerialLines
import Cwdaemon.Verified.Sidetone
import Cwdaemon.Verified.Sleeping
import Cwdaemon.Verified.StuckPtt
import Cwdaemon.Verified.TrailingNul
import Cwdaemon.Verified.TruthfulPtt
import Cwdaemon.Verified.WordMode
