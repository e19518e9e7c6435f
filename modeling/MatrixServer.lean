import MatrixServer.ShutdownMonitor.CheckIdle
import MatrixServer.ShutdownMonitor.IdleWindow
import MatrixServer.ShutdownMonitor.Monitor
import MatrixServer.Routing.Method
import MatrixServer.Routing.Router
import MatrixServer.Routing.Routes
import MatrixServer.Routing.Serve
import MatrixServer.Routing.Startup
