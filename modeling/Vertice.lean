import Vertice.Go
import Vertice.Carton.ReqParser
import Vertice.Carton.Classification
import Vertice.Carton.Assembly
import Vertice.Carton.Hydration
import Vertice.Carton.Persistence
import Vertice.Provision.One.Actions
import Vertice.Provision.One.Compensation
import Vertice.Provision.One.Pipeline
import Vertice.Coordinator
