import AppOperator.Extension.Monitor
import AppOperator.Extension.Route
import AppOperator.Kubernetes.Pod

/-!
# What an application asks for

The specification of an application: its image and how it runs, how it is
reached, what it offers to other applications and uses of them. Nearly every
field may be left unset, so that configuration layers can fill it in; the two
that may not, `applicationImage` and `stack`, count as unset when empty.

Each section is a record with a shape, and choices are inductive types with the words
that stand for them. Sections can be merged and checked one by one, since none of them
refers to another; what concerns two sections at once is checked in the admission of
the whole.
-/

namespace AppOperator

/-- **When an image is pulled.** -/
inductive PullPolicy where
  /-- When the node does not have it. -/
  | ifNotPresent
  /-- Every time. -/
  | always
  /-- Never. -/
  | never
deriving DecidableEq

namespace PullPolicy

/-- The word for a policy. -/
def word : PullPolicy → String
  | .ifNotPresent => "IfNotPresent"
  | .always => "Always"
  | .never => "Never"

instance : Shaped PullPolicy where
  shape := .choice "IfNotPresent" ["Always", "Never"]
  ofVal := fun i => match i.val with
    | 0 => .ifNotPresent
    | 1 => .always
    | _ => .never
  toVal
    | .ifNotPresent => choiceOf 2 0
    | .always => choiceOf 2 1
    | .never => choiceOf 2 2
  ofVal_toVal t := by cases t <;> rfl
  toVal_ofVal := fun (v : Fin 3) => by match v with
    | 0 => rfl
    | 1 => rfl
    | 2 => rfl

end PullPolicy

/-- **How far a service can be reached from.** -/
inductive ServiceType where
  /-- From the cluster. -/
  | clusterIP
  /-- From a port of every node. -/
  | nodePort
  /-- From a load balancer. -/
  | loadBalancer
  /-- It stands for a name elsewhere. -/
  | externalName
deriving DecidableEq

namespace ServiceType

/-- The word for a type. -/
def word : ServiceType → String
  | .clusterIP => "ClusterIP"
  | .nodePort => "NodePort"
  | .loadBalancer => "LoadBalancer"
  | .externalName => "ExternalName"

/-- Whether services of the type have ports on the nodes. -/
def allowsNodePort : ServiceType → Bool
  | .nodePort => true
  | .loadBalancer => true
  | _ => false

instance : Shaped ServiceType where
  shape := .choice "ClusterIP" ["NodePort", "LoadBalancer", "ExternalName"]
  ofVal := fun i => match i.val with
    | 0 => .clusterIP
    | 1 => .nodePort
    | 2 => .loadBalancer
    | _ => .externalName
  toVal
    | .clusterIP => choiceOf 3 0
    | .nodePort => choiceOf 3 1
    | .loadBalancer => choiceOf 3 2
    | .externalName => choiceOf 3 3
  ofVal_toVal t := by cases t <;> rfl
  toVal_ofVal := fun (v : Fin 4) => by match v with
    | 0 => rfl
    | 1 => rfl
    | 2 => rfl
    | 3 => rfl

end ServiceType

/-- **What kind of service is offered or used.** -/
inductive BindingCategory where
  /-- An interface described by an OpenAPI document. -/
  | openApi
deriving DecidableEq

namespace BindingCategory

/-- The word for a category. -/
def word : BindingCategory → String
  | .openApi => "openapi"

instance : Shaped BindingCategory where
  shape := .choice "openapi" []
  ofVal := fun _ => .openApi
  toVal := fun _ => choiceOf 0 0
  ofVal_toVal _ := rfl
  toVal_ofVal := fun (v : Fin 1) => by match v with
    | 0 => rfl

end BindingCategory

/-- **How the number of pods follows the load.** -/
structure Autoscaling where
  /-- The fewest pods. -/
  minReplicas : Option Int32
  /-- The most pods. -/
  maxReplicas : Option Int32
  /-- The share of the requested processor time to aim at, in percent. -/
  targetCpu : Option Int32
deriving DecidableEq

instance : Shaped Autoscaling where
  shape := .record .custom <| .of [
    opt "minReplicas" .int32, opt "maxReplicas" .int32,
    opt "targetCPUUtilizationPercentage" .int32]
  ofVal := fun (minReplicas, maxReplicas, targetCpu, ()) => { minReplicas, maxReplicas, targetCpu }
  toVal a := (a.minReplicas, a.maxReplicas, a.targetCpu, ())
  ofVal_toVal _ := rfl
  toVal_ofVal _ := rfl

instance : Inhabited Autoscaling := ⟨blank Autoscaling⟩

/-- The fewest pods where none are named. -/
def Autoscaling.defaultLeast : Int32 := 1

/-- The fewest pods. -/
def Autoscaling.least (a : Autoscaling) : Int32 := a.minReplicas.getD defaultLeast

/-- **The name and password that an offered service asks for.** -/
structure BindingAuth where
  /-- Where the name is kept. -/
  username : Option SecretKey
  /-- Where the password is kept. -/
  password : Option SecretKey
deriving DecidableEq

instance : Shaped BindingAuth where
  shape := .record .custom <| .of [
    opt "username" (shapeOf SecretKey), opt "password" (shapeOf SecretKey)]
  ofVal := fun (username, password, ()) =>
    { username := username.map ofVal, password := password.map ofVal }
  toVal a := (a.username.map toVal, a.password.map toVal, ())
  ofVal_toVal _ := by simp
  toVal_ofVal _ := by simp

/-- **What an application offers to others.** -/
structure Provides where
  /-- What kind of service it is. -/
  category : BindingCategory
  /-- The path it is found under. -/
  context : Option String
  /-- The protocol it speaks. -/
  protocol : Option String
  /-- The name and password it asks for. -/
  auth : Option BindingAuth
deriving DecidableEq

instance : Shaped Provides where
  shape := .record .custom <| .of [
    implied "category" (shapeOf BindingCategory), opt "context" .text, opt "protocol" .text,
    opt "auth" (shapeOf BindingAuth)]
  ofVal := fun (category, context, protocol, auth, ()) =>
    { category := ofVal category, context, protocol, auth := auth.map ofVal }
  toVal p := (toVal p.category, p.context, p.protocol, p.auth.map toVal, ())
  ofVal_toVal _ := by simp
  toVal_ofVal _ := by simp

instance : Inhabited Provides := ⟨blank Provides⟩

/-- **What an application uses of another.** -/
structure Consumes where
  /-- The application that offers it. -/
  name : String
  /-- The namespace of that application, if it is another. -/
  ns : Option String
  /-- What kind of service it is. -/
  category : BindingCategory
  /-- Where its binding is mounted; unset, its keys become variables. -/
  mountPath : Option String
deriving DecidableEq

instance : Shaped Consumes where
  shape := .record .custom <| .of [
    given "name" .text, opt "namespace" .text, implied "category" (shapeOf BindingCategory),
    opt "mountPath" .text]
  ofVal := fun (name, ns, category, mountPath, ()) =>
    { name, ns, category := ofVal category, mountPath }
  toVal c := (c.name, c.ns, toVal c.category, c.mountPath, ())
  ofVal_toVal _ := by simp
  toVal_ofVal _ := by simp

/-- **How an application is reached in the cluster, and what it offers and uses.** -/
structure ServiceSettings where
  /-- How far it can be reached from. -/
  type : Option ServiceType
  /-- The port. -/
  port : Option Int32
  /-- The port of the pods, if it is another. -/
  targetPort : Option Int32
  /-- The port of the nodes. -/
  nodePort : Option Int32
  /-- The name of the port. -/
  portName : Option String
  /-- Annotations for the service. -/
  annotations : Option Labels
  /-- What the application offers. -/
  provides : Option Provides
  /-- What it uses. -/
  consumes : Option (List Consumes)
deriving DecidableEq

instance : Shaped ServiceSettings where
  shape := .record .custom <| .of [
    opt "type" (shapeOf ServiceType), opt "port" .int32, opt "targetPort" .int32,
    opt "nodePort" .int32, opt "portName" .text, opt "annotations" (.map .text),
    opt "provides" (shapeOf Provides), opt "consumes" (.list (shapeOf Consumes))]
  ofVal := fun (type, port, targetPort, nodePort, portName, annotations, provides, consumes, ()) =>
    { type := type.map ofVal, port, targetPort, nodePort, portName, annotations,
      provides := provides.map ofVal, consumes := consumes.map ofVals }
  toVal s := (s.type.map toVal, s.port, s.targetPort, s.nodePort, s.portName, s.annotations,
    s.provides.map toVal, s.consumes.map toVals, ())
  ofVal_toVal _ := by simp
  toVal_ofVal _ := by simp

instance : Inhabited ServiceSettings := ⟨blank ServiceSettings⟩

/-- **The storage that each pod keeps.** -/
structure Storage where
  /-- Its size. -/
  size : Option String
  /-- Where it is mounted. -/
  mountPath : Option String
  /-- The claim it is made by, if the size does not say enough. -/
  claimTemplate : Option VolumeClaim
deriving DecidableEq

instance : Shaped Storage where
  shape := .record .custom <| .of [
    opt "size" .text, opt "mountPath" .text, opt "volumeClaimTemplate" (shapeOf VolumeClaim)]
  ofVal := fun (size, mountPath, claim, ()) =>
    { size, mountPath, claimTemplate := claim.map ofVal }
  toVal s := (s.size, s.mountPath, s.claimTemplate.map toVal, ())
  ofVal_toVal _ := by simp
  toVal_ofVal _ := by simp

/-- **How an application is monitored.** -/
structure Monitoring where
  /-- Labels for the service monitor. -/
  labels : Option Labels
  /-- The places to scrape. -/
  endpoints : Option (List Endpoint)
deriving DecidableEq

instance : Shaped Monitoring where
  shape := .record .custom <| .of [
    opt "labels" (.map .text), opt "endpoints" (.list (shapeOf Endpoint))]
  ofVal := fun (labels, endpoints, ()) => { labels, endpoints := endpoints.map ofVals }
  toVal m := (m.labels, m.endpoints.map toVals, ())
  ofVal_toVal _ := by simp
  toVal_ofVal _ := by simp

instance : Inhabited Monitoring := ⟨blank Monitoring⟩

/-- **How an application is reached from outside.** -/
structure RouteSettings where
  /-- Annotations for the route. -/
  annotations : Option Labels
  /-- The host name. -/
  host : Option String
  /-- The path that requests begin with. -/
  path : Option String
  /-- Where the encryption ends. -/
  termination : Option TlsTermination
  /-- What becomes of traffic without encryption. -/
  insecurePolicy : Option InsecurePolicy
  /-- The secret with the certificate. -/
  certificateSecretRef : Option String
deriving DecidableEq

instance : Shaped RouteSettings where
  shape := .record .custom <| .of [
    opt "annotations" (.map .text), opt "host" .text, opt "path" .text,
    opt "termination" (shapeOf TlsTermination),
    opt "insecureEdgeTerminationPolicy" (shapeOf InsecurePolicy),
    opt "certificateSecretRef" .text]
  ofVal := fun (annotations, host, path, termination, policy, certificate, ()) =>
    { annotations, host, path, termination := termination.map ofVal,
      insecurePolicy := policy.map ofVal, certificateSecretRef := certificate }
  toVal r := (r.annotations, r.host, r.path, r.termination.map toVal, r.insecurePolicy.map toVal,
    r.certificateSecretRef, ())
  ofVal_toVal _ := by simp
  toVal_ofVal _ := by simp

instance : Inhabited RouteSettings := ⟨blank RouteSettings⟩

/-- **What an application asks for.** -/
structure ApplicationSpec where
  /-- The version, shown in a label. -/
  version : Option String
  /-- The image, or a reference to an image stream. -/
  applicationImage : String
  /-- The number of pods, unless the number follows the load. -/
  replicas : Option Int32
  /-- How the number of pods follows the load. -/
  autoscaling : Option Autoscaling
  /-- When the image is pulled. -/
  pullPolicy : Option PullPolicy
  /-- The secret by which it is pulled. -/
  pullSecret : Option String
  /-- Volumes of the pods. -/
  volumes : Option (List Volume)
  /-- Where they are mounted. -/
  volumeMounts : Option (List VolumeMount)
  /-- The resources of the container. -/
  resourceConstraints : Option Resources
  /-- The check that it can serve. -/
  readinessProbe : Option Probe
  /-- The check that it lives. -/
  livenessProbe : Option Probe
  /-- How it is reached in the cluster, and what it offers and uses. -/
  service : Option ServiceSettings
  /-- Whether it is reached from outside. -/
  expose : Option Bool
  /-- The maps and secrets whose keys are variables. -/
  envFrom : Option (List EnvFrom)
  /-- Environment variables. -/
  env : Option (List EnvVar)
  /-- The account it acts as; unset, it gets one of its own. -/
  serviceAccountName : Option String
  /-- The processor architectures it runs on, preferred ones first. -/
  architecture : Option (List String)
  /-- The storage of each pod. -/
  storage : Option Storage
  /-- Whether it runs as a Knative service. -/
  createKnativeService : Option Bool
  /-- The stack it was built from. -/
  stack : String
  /-- How it is monitored. -/
  monitoring : Option Monitoring
  /-- Whether it is listed as an application. -/
  createAppDefinition : Option Bool
  /-- The larger application it is a part of. -/
  applicationName : Option String
  /-- Containers that run to their end first. -/
  initContainers : Option (List Container)
  /-- Containers that run beside it. -/
  sidecarContainers : Option (List Container)
  /-- How it is reached from outside. -/
  route : Option RouteSettings
deriving DecidableEq

namespace ApplicationSpec

instance : Shaped ApplicationSpec where
  shape := .record .custom <| .of [
    opt "version" .text, implied "applicationImage" .text, opt "replicas" .int32,
    opt "autoscaling" (shapeOf Autoscaling), opt "pullPolicy" (shapeOf PullPolicy),
    opt "pullSecret" .text, opt "volumes" (.list (shapeOf Volume)),
    opt "volumeMounts" (.list (shapeOf VolumeMount)), opt "resourceConstraints" (shapeOf Resources),
    opt "readinessProbe" (shapeOf Probe), opt "livenessProbe" (shapeOf Probe),
    opt "service" (shapeOf ServiceSettings), opt "expose" .flag,
    opt "envFrom" (.list (shapeOf EnvFrom)), opt "env" (.list (shapeOf EnvVar)),
    opt "serviceAccountName" .text, opt "architecture" (.list .text),
    opt "storage" (shapeOf Storage), opt "createKnativeService" .flag, implied "stack" .text,
    opt "monitoring" (shapeOf Monitoring), opt "createAppDefinition" .flag,
    opt "applicationName" .text, opt "initContainers" (.list (shapeOf Container)),
    opt "sidecarContainers" (.list (shapeOf Container)), opt "route" (shapeOf RouteSettings)]
  ofVal := fun (version, applicationImage, replicas, autoscaling, pullPolicy, pullSecret, volumes,
      volumeMounts, resources, readiness, liveness, service, expose, envFrom, env,
      serviceAccountName, architecture, storage, createKnativeService, stack, monitoring,
      createAppDefinition, applicationName, initContainers, sidecarContainers, route, ()) =>
    { version, applicationImage, replicas, autoscaling := autoscaling.map ofVal,
      pullPolicy := pullPolicy.map ofVal, pullSecret, volumes := volumes.map ofVals,
      volumeMounts := volumeMounts.map ofVals, resourceConstraints := resources.map ofVal,
      readinessProbe := readiness.map ofVal, livenessProbe := liveness.map ofVal,
      service := service.map ofVal, expose, envFrom := envFrom.map ofVals, env := env.map ofVals,
      serviceAccountName, architecture, storage := storage.map ofVal, createKnativeService, stack,
      monitoring := monitoring.map ofVal, createAppDefinition, applicationName,
      initContainers := initContainers.map ofVals,
      sidecarContainers := sidecarContainers.map ofVals, route := route.map ofVal }
  toVal s := (s.version, s.applicationImage, s.replicas, s.autoscaling.map toVal,
    s.pullPolicy.map toVal, s.pullSecret, s.volumes.map toVals, s.volumeMounts.map toVals,
    s.resourceConstraints.map toVal, s.readinessProbe.map toVal, s.livenessProbe.map toVal,
    s.service.map toVal, s.expose, s.envFrom.map toVals, s.env.map toVals, s.serviceAccountName,
    s.architecture, s.storage.map toVal, s.createKnativeService, s.stack, s.monitoring.map toVal,
    s.createAppDefinition, s.applicationName, s.initContainers.map toVals,
    s.sidecarContainers.map toVals, s.route.map toVal, ())
  ofVal_toVal _ := by simp
  toVal_ofVal _ := by simp

instance : Inhabited ApplicationSpec := ⟨blank ApplicationSpec⟩

end ApplicationSpec
end AppOperator
