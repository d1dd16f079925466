import Ultralight.JSCallbackObject.Classes
import Ultralight.JSCallbackObject.Engine
import Ultralight.JSCallbackObject.Trace
import Ultralight.JSCallbackObject.Property
import Ultralight.JSCallbackObject.Put
import Ultralight.JSCallbackObject.Invoke
import Ultralight.JSCallbackObject.Enumerate
import Ultralight.JSCallbackObject.Lifecycle
import Ultralight.JSCallbackObject.Discipline
import Ultralight.JSCallbackObject.Faults
import Ultralight.JSCallbackObject.Attributes
import Ultralight.JSCallbackObject.Caching
import Ultralight.JSCallbackObject.Exceptions
import Ultralight.JSCallbackObject.Resolution
import Ultralight.JSCallbackObject.Deletion
import Ultralight.JSCallbackObject.Object
import Ultralight.JSCallbackObject.Store
import Ultralight.ResourceLoader
