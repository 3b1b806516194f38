import IstioControlPlane.Go
import IstioControlPlane.Registry.Types
import IstioControlPlane.Registry.SliceCache
import IstioControlPlane.Registry.Builder
import IstioControlPlane.Registry.UpdateEDS
import IstioControlPlane.Registry.Queries
import IstioControlPlane.Registry.Events
import IstioControlPlane.Registry.Concurrent
import IstioControlPlane.Galley.DestinationHosts
import IstioControlPlane.Operator.HelmReconciler
import IstioControlPlane.Operator.Version
import IstioControlPlane.Operator.VersionString
import IstioControlPlane.Webhook.ValidationController
import IstioControlPlane.Operator.Helm
import IstioControlPlane.Operator.ProcessObject
import IstioControlPlane.Operator.Translate
import IstioControlPlane.Operator.TranslateK8s
import IstioControlPlane.Operator.ChartCustomizers
import IstioControlPlane.Webhook.WorkQueue
