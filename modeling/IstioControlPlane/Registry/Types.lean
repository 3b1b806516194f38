import IstioControlPlane.Go

namespace IstioControlPlane.Registry.Types

open Go

def labelServiceName : String := "kubernetes.io/service-name"

def localityLabel : String := "istio-locality"

def nodeRegionLabelGA : String := "topology.kubernetes.io/region"

def nodeZoneLabelGA : String := "topology.kubernetes.io/zone"

def istioSubzoneLabel : String := "topology.istio.io/subzone"

/-- The parts of a `v1.Pod` the registry reads; `labels = none` is a nil label map. -/
structure Pod where
  name : String
  ns : String
  labels : Option (GoMap String String)

structure EndpointConditions where
  ready : Option Bool

structure ObjectReference where
  kind : String

structure Endpoint where
  addresses : List String
  conditions : EndpointConditions
  targetRef : Option ObjectReference
  topology : GoMap String String

structure EndpointPort where
  name : Option String
  port : Option Int

structure EndpointSlice where
  name : String
  ns : String
  labels : GoMap String String
  endpoints : List Endpoint
  ports : List EndpointPort

inductive Event
  | add
  | update
  | delete
  deriving DecidableEq, Repr

/-- What an informer hands to a handler: the object, a tombstone wrapping its last state, or
an object of another type. -/
inductive Object
  | endpointSlice (slice : EndpointSlice)
  | deletedFinalStateUnknown (key : String) (obj : Object)
  | other

/-- Modelled from the spec: `model.Port` is absent; a service port has a name and a number. -/
structure Port where
  name : String
  port : Int
  deriving DecidableEq, Repr

abbrev PortList := List Port

/-- Modelled from the spec: `PortList.Get` is absent; the port with this name. -/
def PortList.get (ports : PortList) (name : String) : Option Port :=
  ports.find? (·.name == name)

/-- Modelled from the spec: `PortList.GetByPort` is absent; the port with this number. -/
def PortList.getByPort (ports : PortList) (num : Int) : Option Port :=
  ports.find? (·.port == num)

structure ServiceAttributes where
  name : String
  ns : String

structure Service where
  hostname : String
  attributes : ServiceAttributes
  ports : PortList

/-- Modelled from the spec (section 3): `model.IstioEndpoint` is absent; a record carries its
workload's labels, identity and locality, its address, port number and service port name. -/
structure IstioEndpoint where
  labels : GoMap String String
  uid : String
  locality : String
  address : String
  endpointPort : Int
  servicePortName : String
  deriving DecidableEq

/-- Modelled from the spec (section 4.1): `EndpointBuilder` is absent; what a record takes
from its workload. -/
structure EndpointBuilder where
  labels : GoMap String String
  uid : String
  locality : String

/-- Modelled from the spec: `NewEndpointBuilder` is absent; the pod's labels, identity and
locality label, and nothing when there is no pod. -/
def NewEndpointBuilder : Option Pod → EndpointBuilder
  | none => ⟨∅, "", ""⟩
  | some pod =>
    let labels := pod.labels.getD ∅
    ⟨labels, pod.name ++ "." ++ pod.ns, labels.get localityLabel⟩

/-- Modelled from the spec: `buildIstioEndpoint` is absent; the raw address, port number and
port name beside what the builder took from the workload. -/
def EndpointBuilder.buildIstioEndpoint (b : EndpointBuilder) (endpointAddress : String)
    (endpointPort : Int) (svcPortName : String) : IstioEndpoint :=
  ⟨b.labels, b.uid, b.locality, endpointAddress, endpointPort, svcPortName⟩

@[simp] theorem buildIstioEndpoint_address (b : EndpointBuilder) (a : String) (n : Int)
    (p : String) : (b.buildIstioEndpoint a n p).address = a := rfl

@[simp] theorem buildIstioEndpoint_endpointPort (b : EndpointBuilder) (a : String) (n : Int)
    (p : String) : (b.buildIstioEndpoint a n p).endpointPort = n := rfl

@[simp] theorem buildIstioEndpoint_servicePortName (b : EndpointBuilder) (a : String)
    (n : Int) (p : String) : (b.buildIstioEndpoint a n p).servicePortName = p := rfl

/-- Modelled from the spec: `kube.ServiceHostname` is absent; the service's name and namespace
under the cluster's domain suffix. -/
def serviceHostname (name ns domainSuffix : String) : String :=
  name ++ "." ++ ns ++ ".svc." ++ domainSuffix

/-- The parts of the kube registry `Controller` the endpoint-slice code reads: `pods` is
`c.pods.getPodByIP`, and `checkReadyForEvents` the error of that check, none once synced. -/
structure Controller where
  domainSuffix : String
  clusterID : String
  servicesMap : GoMap String Service
  pods : String → Option Pod
  checkReadyForEvents : Option String

def Controller.synced (c : Controller) : Bool := c.checkReadyForEvents.isNone

structure EDSUpdate where
  clusterID : String
  hostname : String
  ns : String
  entry : List IstioEndpoint

structure Proxy where
  id : String
  ipAddresses : List String
  metadataNamespace : String

structure ServiceInstance where
  endpoint : IstioEndpoint
  servicePort : Port
  service : Service

end IstioControlPlane.Registry.Types
