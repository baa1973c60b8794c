import Fidl.Magenta
import Fidl.Magenta.Channels
import Fidl.Magenta.Sockets
import Fidl.Bindings.Binding
import Fidl.Bindings.BindingLifecycle
import Fidl.Bindings.BindingSet
import Fidl.Bindings.BindingSetRuns
import Fidl.Bindings.BindingSetRefinement
import Fidl.Dart.Handle
import Fidl.Dart.ByteDataScope
import Fidl.Dart.System
import Fidl.Dart.SystemLaws
import Fidl.Dart.ChannelTransfer
import Fidl.Dart.SocketTransfer
import Fidl.Dart.ChannelDuplex
import Fidl.Dart.ChannelExchange
import Fidl.Dart.HandleOwnership
import Fidl.Dart.Natives
import Fidl.Dart.Process
