import AppOperator.Kubernetes.Volume

/-!
# Containers

A container with what the operator sets in it: image, ports, probes,
environment, mounts. What a container carries beyond that stays in `other`.

A variable that takes its value from a secret is told from other variables, because
bindings are made of such (`EnvVar.ofSecretKey`), while the other sources of a value
are a table that is only carried along. Whether a field was absent is kept by
`Option`, as it is written back that way.
-/

namespace AppOperator

/-- **One key of a secret.** -/
structure SecretKey where
  /-- The name of the secret. -/
  name : Option String
  /-- The key. -/
  key : String
  /-- Whether the secret or the key may be missing. -/
  isOptional : Option Bool
deriving DecidableEq

instance : Shaped SecretKey where
  shape := .record .platform <| .of [opt "name" .text, req "key" .text, opt "optional" .flag]
  ofVal := fun (name, key, isOptional, ()) => { name, key, isOptional }
  toVal s := (s.name, s.key, s.isOptional, ())
  ofVal_toVal _ := rfl
  toVal_ofVal _ := rfl

/-- The sources of a variable other than a secret. -/
def EnvSource.otherTable : Table := .of [
  opt "configMapKeyRef" (.record .platform <| .of [
    req "key" .text, opt "name" .text, opt "optional" .flag]),
  opt "fieldRef" fieldSelector, opt "resourceFieldRef" resourceFieldSelector]

/-- **Where a variable takes its value from.** -/
structure EnvSource where
  /-- A key of a secret. -/
  secretKeyRef : Option SecretKey
  /-- The other sources. -/
  other : EnvSource.otherTable.Val
deriving DecidableEq

instance : Shaped EnvSource where
  shape := .record .platform <| .of [opt "secretKeyRef" (shapeOf SecretKey)] EnvSource.otherTable
  ofVal := fun (secretKeyRef, other) => { secretKeyRef := secretKeyRef.map ofVal, other }
  toVal s := (s.secretKeyRef.map toVal, s.other)
  ofVal_toVal _ := by simp
  toVal_ofVal _ := by simp

/-- **An environment variable.** -/
structure EnvVar where
  /-- The name. -/
  name : String
  /-- The value, if it is given outright. -/
  value : Option String
  /-- Where the value comes from otherwise. -/
  valueFrom : Option EnvSource
deriving DecidableEq

instance : Shaped EnvVar where
  shape := .record .platform <| .of [
    req "name" .text, opt "value" .text, opt "valueFrom" (shapeOf EnvSource)]
  ofVal := fun (name, value, valueFrom, ()) => { name, value, valueFrom := valueFrom.map ofVal }
  toVal e := (e.name, e.value, e.valueFrom.map toVal, ())
  ofVal_toVal _ := by simp
  toVal_ofVal _ := by simp

/-- The variable that takes the value of a secret's key. -/
def EnvVar.ofSecretKey (name secretName key : String) : EnvVar :=
  { name, value := none,
    valueFrom := some
      { secretKeyRef := some { name := some secretName, key, isOptional := none },
        other := default } }

/-- A map or secret by name. -/
structure NamedSource where
  /-- The name. -/
  name : Option String
  /-- Whether it may be missing. -/
  isOptional : Option Bool
deriving DecidableEq

instance : Shaped NamedSource where
  shape := .record .platform <| .of [opt "name" .text, opt "optional" .flag]
  ofVal := fun (name, isOptional, ()) => { name, isOptional }
  toVal s := (s.name, s.isOptional, ())
  ofVal_toVal _ := rfl
  toVal_ofVal _ := rfl

/-- **A map or secret whose keys all become variables.** -/
structure EnvFrom where
  /-- The configuration map. -/
  configMapRef : Option NamedSource
  /-- The secret. -/
  secretRef : Option NamedSource
  /-- What the names of the variables begin with. -/
  lead : Option String
deriving DecidableEq

instance : Shaped EnvFrom where
  shape := .record .platform <| .of [
    opt "configMapRef" (shapeOf NamedSource), opt "secretRef" (shapeOf NamedSource),
    opt "prefix" .text]
  ofVal := fun (configMapRef, secretRef, lead, ()) =>
    { configMapRef := configMapRef.map ofVal, secretRef := secretRef.map ofVal, lead }
  toVal e := (e.configMapRef.map toVal, e.secretRef.map toVal, e.lead, ())
  ofVal_toVal _ := by simp
  toVal_ofVal _ := by simp

/-- **A port that a container listens on.** -/
structure ContainerPort where
  /-- The number. -/
  containerPort : Int32
  /-- The name. -/
  name : Option String
  /-- The transport. -/
  protocol : Option String
  /-- The address of the node it is bound to. -/
  hostIP : Option String
  /-- The port of the node it is bound to. -/
  hostPort : Option Int32
deriving DecidableEq

instance : Shaped ContainerPort where
  shape := .record .platform <| .of [
    req "containerPort" .int32, opt "name" .text, opt "protocol" .text, opt "hostIP" .text,
    opt "hostPort" .int32]
  ofVal := fun (containerPort, name, protocol, hostIP, hostPort, ()) =>
    { containerPort, name, protocol, hostIP, hostPort }
  toVal p := (p.containerPort, p.name, p.protocol, p.hostIP, p.hostPort, ())
  ofVal_toVal _ := rfl
  toVal_ofVal _ := rfl

/-- The port with a number and nothing else. -/
def ContainerPort.bare (containerPort : Int32) : ContainerPort :=
  { containerPort, name := none, protocol := none, hostIP := none, hostPort := none }

/-- What a request carries besides its port. -/
def HttpCheck.otherTable : Table := .of [
  opt "host" .text,
  opt "httpHeaders" (.list (.record .platform <| .of [req "name" .text, req "value" .text])),
  opt "path" .text, opt "scheme" .text]

/-- A check by a request. -/
structure HttpCheck where
  /-- The port it goes to. -/
  port : IntOrText
  /-- What else it carries. -/
  other : HttpCheck.otherTable.Val
deriving DecidableEq

instance : Shaped HttpCheck where
  shape := .record .platform <| .of [req "port" .intOrText] HttpCheck.otherTable
  ofVal := fun (port, other) => { port, other }
  toVal c := (c.port, c.other)
  ofVal_toVal _ := rfl
  toVal_ofVal _ := rfl

/-- A check by opening a connection. -/
structure TcpCheck where
  /-- The port it is opened to. -/
  port : IntOrText
  /-- The host, if it is not the pod. -/
  host : Option String
deriving DecidableEq

instance : Shaped TcpCheck where
  shape := .record .platform <| .of [req "port" .intOrText, opt "host" .text]
  ofVal := fun (port, host, ()) => { port, host }
  toVal c := (c.port, c.host, ())
  ofVal_toVal _ := rfl
  toVal_ofVal _ := rfl

/-- A check by the health protocol of remote procedure calls. -/
structure GrpcCheck where
  /-- The port it goes to. -/
  port : Int32
  /-- The service asked for. -/
  service : Option String
deriving DecidableEq

instance : Shaped GrpcCheck where
  shape := .record .platform <| .of [req "port" .int32, opt "service" .text]
  ofVal := fun (port, service, ()) => { port, service }
  toVal c := (c.port, c.service, ())
  ofVal_toVal _ := rfl
  toVal_ofVal _ := rfl

/-- A command run in the container. -/
def execAction : Shape := .record .platform <| .of [opt "command" (.list .text)]

/-- The command and the timing of a probe. -/
def Probe.otherTable : Table := .of [
  opt "exec" execAction, opt "failureThreshold" .int32, opt "initialDelaySeconds" .int32,
  opt "periodSeconds" .int32, opt "successThreshold" .int32,
  opt "terminationGracePeriodSeconds" .int64, opt "timeoutSeconds" .int32]

/-- **A check of a container's health.** -/
structure Probe where
  /-- A check by a request. -/
  httpGet : Option HttpCheck
  /-- A check by a connection. -/
  tcpSocket : Option TcpCheck
  /-- A check by the health protocol. -/
  grpc : Option GrpcCheck
  /-- The command and the timing. -/
  other : Probe.otherTable.Val
deriving DecidableEq

instance : Shaped Probe where
  shape := .record .platform <| .of [
    opt "httpGet" (shapeOf HttpCheck), opt "tcpSocket" (shapeOf TcpCheck),
    opt "grpc" (shapeOf GrpcCheck)] Probe.otherTable
  ofVal := fun (httpGet, tcpSocket, grpc, other) =>
    { httpGet := httpGet.map ofVal, tcpSocket := tcpSocket.map ofVal, grpc := grpc.map ofVal,
      other }
  toVal p := (p.httpGet.map toVal, p.tcpSocket.map toVal, p.grpc.map toVal, p.other)
  ofVal_toVal _ := by simp
  toVal_ofVal _ := by simp

/-- What is run when a container starts or stops. -/
def lifecycleHandler : Shape := .record .platform <| .of [
  opt "exec" execAction, opt "httpGet" (shapeOf HttpCheck), opt "tcpSocket" (shapeOf TcpCheck)]

/-- The labels by which a node's security module confines a process. -/
def seLinuxOptions : Shape := .record .platform <| .of [
  opt "level" .text, opt "role" .text, opt "type" .text, opt "user" .text]

/-- The system calls a process may make. -/
def seccompProfile : Shape := .record .platform <| .of [
  opt "localhostProfile" .text, req "type" .text]

/-- The identity of a process on Windows. -/
def windowsOptions : Shape := .record .platform <| .of [
  opt "gmsaCredentialSpec" .text, opt "gmsaCredentialSpecName" .text, opt "hostProcess" .flag,
  opt "runAsUserName" .text]

/-- The privileges of a container. -/
def securityContext : Shape := .record .platform <| .of [
  opt "allowPrivilegeEscalation" .flag,
  opt "capabilities" (.record .platform <| .of [
    opt "add" (.list .text), opt "drop" (.list .text)]),
  opt "privileged" .flag, opt "procMount" .text, opt "readOnlyRootFilesystem" .flag,
  opt "runAsGroup" .int64, opt "runAsNonRoot" .flag, opt "runAsUser" .int64,
  opt "seLinuxOptions" seLinuxOptions, opt "seccompProfile" seccompProfile,
  opt "windowsOptions" windowsOptions]

/-- What a container carries that the operator has no rule for. -/
def Container.otherTable : Table := .of [
  opt "args" (.list .text), opt "command" (.list .text),
  opt "lifecycle" (.record .platform <| .of [
    opt "postStart" lifecycleHandler, opt "preStop" lifecycleHandler]),
  opt "resizePolicy" (.list (.record .platform <| .of [
    req "resourceName" .text, req "restartPolicy" .text])),
  opt "restartPolicy" .text, opt "securityContext" securityContext,
  opt "startupProbe" (shapeOf Probe), opt "stdin" .flag, opt "stdinOnce" .flag,
  opt "terminationMessagePath" .text, opt "terminationMessagePolicy" .text, opt "tty" .flag,
  opt "volumeDevices" (.list (.record .platform <| .of [
    req "devicePath" .text, req "name" .text])),
  opt "workingDir" .text]

/-- **A container of a pod.** -/
structure Container where
  /-- The name, unique in the pod. -/
  name : String
  /-- The image it runs. -/
  image : Option String
  /-- When the image is pulled. -/
  imagePullPolicy : Option String
  /-- The ports it listens on. -/
  ports : Option (List ContainerPort)
  /-- The check that it can serve. -/
  readinessProbe : Option Probe
  /-- The check that it lives. -/
  livenessProbe : Option Probe
  /-- The resources it asks for. -/
  resources : Option Resources
  /-- Its environment variables. -/
  env : Option (List EnvVar)
  /-- The maps and secrets whose keys are variables too. -/
  envFrom : Option (List EnvFrom)
  /-- Where volumes are mounted. -/
  volumeMounts : Option (List VolumeMount)
  /-- What else it carries. -/
  other : Container.otherTable.Val
deriving DecidableEq

namespace Container

/-- The fields of a container, before those of `rest`. -/
@[reducible] def tableWith (rest : Table) : Table := .of [
  req "name" .text, opt "image" .text, opt "imagePullPolicy" .text,
  opt "ports" (.list (shapeOf ContainerPort)), opt "readinessProbe" (shapeOf Probe),
  opt "livenessProbe" (shapeOf Probe), opt "resources" (shapeOf Resources),
  opt "env" (.list (shapeOf EnvVar)), opt "envFrom" (.list (shapeOf EnvFrom)),
  opt "volumeMounts" (.list (shapeOf VolumeMount))] rest

instance : Shaped Container where
  shape := .record .platform (tableWith otherTable)
  ofVal := fun (name, image, imagePullPolicy, ports, readiness, liveness, resources, env, envFrom,
      volumeMounts, other) =>
    { name, image, imagePullPolicy, ports := ports.map ofVals,
      readinessProbe := readiness.map ofVal, livenessProbe := liveness.map ofVal,
      resources := resources.map ofVal, env := env.map ofVals, envFrom := envFrom.map ofVals,
      volumeMounts := volumeMounts.map ofVals, other }
  toVal c := (c.name, c.image, c.imagePullPolicy, c.ports.map toVals, c.readinessProbe.map toVal,
    c.livenessProbe.map toVal, c.resources.map toVal, c.env.map toVals, c.envFrom.map toVals,
    c.volumeMounts.map toVals, c.other)
  ofVal_toVal _ := by simp
  toVal_ofVal _ := by simp

end Container

/-- A container added to a running pod for inspection. -/
def ephemeralContainer : Shape :=
  .record .platform (Container.tableWith (.of [opt "targetContainerName" .text]
    Container.otherTable))

end AppOperator
