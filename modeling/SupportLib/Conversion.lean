import SupportLib.Default.Clock
import SupportLib.TimerLib.Step

open Foundation

namespace SupportLib

end SupportLib
