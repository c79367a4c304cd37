import SupportLib.Foundation.Machine
import SupportLib.TimerLib.SingleRollover
import SupportLib.TimerLib.Monotone
import SupportLib.TimerLib.Agreement
import SupportLib.TimerLib.SeveralRollovers
import SupportLib.TimerLib.SkippedLoop
import SupportLib.TimerLib.Division
import SupportLib.Default.Nanosleep
import SupportLib.TimerLib.Nanosleep
import SupportLib.Default.Delay
import SupportLib.Examples.Sdl2
import SupportLib.Duration
import SupportLib.Default.Registration
import SupportLib.FailedRead
import SupportLib.Default.Verdict
import SupportLib.Conversion
import SupportLib.Resolution
import SupportLib.Default.Accuracy
import SupportLib.PosixContract
import SupportLib.Foundation.Deadline
import SupportLib.Examples.Main
import SupportLib.Examples.Sdl2Cpp
import SupportLib.Examples.Globals
import SupportLib.Shell
