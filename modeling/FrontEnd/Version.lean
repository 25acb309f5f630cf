/-!
# Version

The version that the tools of the language announce.
-/

namespace FrontEnd

/-- The version of the front end. -/
def version : String := "0.1.0"

end FrontEnd
