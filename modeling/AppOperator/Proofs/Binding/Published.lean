import AppOperator.Binding.Provider

/-!
# What a binding tells

An application that offers a service publishes seven things at most, each
under a key of its own: host, port, protocol and path, the address made of
these, and the name and password if they were found (`Application.Tells`).
The address is the one part that is not copied from somewhere: the path is
appended to it without the slashes that it begins with, and a path of slashes
alone is none.

The keys are stated one by one with what stands under each, and then that nothing else
is told (`Application.Tells`). The port is that of the service, so it is there even
where the specification says nothing of it; context and protocol are optional in the
specification and are told in any case, the one as an empty text and the other by its
default. The name and password are the exception, as a key with nothing under it would
be taken for an empty password.

Of the path only the slashes at its beginning are at issue. `exists_append_trimStart`
says what trimming leaves, so that the address can be described by what the path is
and not by how it is cut.
-/

namespace AppOperator

/-- A text is some of one character, and then one that does not begin with it. -/
theorem exists_append_trimStart (c : Char) (s : String) : ∃ start : String,
    s = start ++ trimStart c s ∧ (∀ d ∈ start.toList, d = c)
      ∧ (trimStart c s).toList.head? ≠ some c := by
  refine ⟨.ofList (s.toList.takeWhile (· = c)), ?_, fun d hd => ?_, fun hhead => ?_⟩
  · apply String.toList_injective
    simp [trimStart]
  · rw [String.toList_ofList] at hd
    simpa using List.all_eq_true.1 List.all_takeWhile d hd
  · rw [trimStart, String.toList_ofList] at hhead
    have hdropped := List.head?_dropWhile_not (fun d => decide (d = c)) s.toList
    rw [hhead] at hdropped
    simp at hdropped

namespace Application

/-- **What others are told of a service**: by which host, port, protocol and
path it is reached, by which address, and by which name and password if they
were found; and nothing else. -/
structure Tells (app : Application) (credentials : Credentials) (data : Labels) : Prop where
  /-- The path. -/
  context : data.get? "context" = some ((app.provides?.getD default).context.getD "")
  /-- The host. -/
  hostname : data.get? "hostname"
    = some (app.name ++ "." ++ app.metadata.nsOrEmpty ++ ".svc.cluster.local")
  /-- The port. -/
  port : data.get? "port" = some (toString app.servicePort.toInt)
  /-- The protocol. -/
  protocol : data.get? "protocol"
    = some ((filled (app.provides?.getD default).protocol).getD "http")
  /-- The name. -/
  username : data.get? "username" = credentials.username
  /-- The password. -/
  password : data.get? "password" = credentials.password
  /-- The address: protocol, host and port, and then the path without the
  slashes at its start, if anything is left of it. -/
  url : ∃ context hostname port protocol slashes path,
    data.get? "context" = some context ∧ data.get? "hostname" = some hostname
      ∧ data.get? "port" = some port ∧ data.get? "protocol" = some protocol
      ∧ context = slashes ++ path ∧ (∀ c ∈ slashes.toList, c = '/')
      ∧ path.toList.head? ≠ some '/'
      ∧ data.get? "url" = some (protocol ++ "://" ++ hostname ++ ":" ++ port
        ++ if path = "" then "" else "/" ++ path)
  /-- Nothing else. -/
  only : ∀ k v, data.get? k = some v →
    k ∈ ["context", "hostname", "password", "port", "protocol", "url", "username"]

/-- The address of the service. -/
def address (app : Application) : String :=
  let offer := app.provides?.getD default
  let path := trimStart '/' (offer.context.getD "")
  (filled offer.protocol).getD "http" ++ "://" ++ app.hostname ++ ":"
    ++ toString app.servicePort.toInt ++ if path = "" then "" else "/" ++ path

/-- **What is published**, key by key. -/
theorem get?_binding (app : Application) (credentials : Credentials) (k : String) :
    (app.binding credentials).get? k =
      if k = "password" ∧ credentials.password.isSome then credentials.password
      else if k = "username" ∧ credentials.username.isSome then credentials.username
      else if k = "url" then some app.address
      else if k = "protocol" then some ((filled (app.provides?.getD default).protocol).getD "http")
      else if k = "port" then some (toString app.servicePort.toInt)
      else if k = "hostname" then some app.hostname
      else if k = "context" then some ((app.provides?.getD default).context.getD "")
      else none := by
  have hurl : app.address = (let offer := app.provides?.getD default
      let path := trimStart '/' (offer.context.getD "")
      let address := (filled offer.protocol).getD "http" ++ "://" ++ app.hostname ++ ":"
        ++ toString app.servicePort.toInt
      if path.isEmpty then address else address ++ "/" ++ path) := by
    unfold address
    dsimp only
    by_cases hpath : trimStart '/' ((app.provides?.getD default).context.getD "") = ""
    · rw [if_pos hpath, if_pos (String.isEmpty_iff.2 hpath), String.append_empty]
    · rw [if_neg hpath, if_neg (by simpa using hpath)]
      simp only [String.append_assoc]
  rw [hurl]
  unfold binding
  obtain ⟨username, password⟩ := credentials
  cases username <;> cases password <;>
    simp [Dict.ofList_eq_foldl, Dict.get?_insert]

/-- **What an application publishes tells of its service.** -/
theorem tells_binding (app : Application) (credentials : Credentials) :
    app.Tells credentials (app.binding credentials) := by
  have hcontext : (app.binding credentials).get? "context"
      = some ((app.provides?.getD default).context.getD "") := by simp [get?_binding]
  have hhostname : (app.binding credentials).get? "hostname" = some app.hostname := by
    simp [get?_binding]
  have hport : (app.binding credentials).get? "port" = some (toString app.servicePort.toInt) := by
    simp [get?_binding]
  have hprotocol : (app.binding credentials).get? "protocol"
      = some ((filled (app.provides?.getD default).protocol).getD "http") := by simp [get?_binding]
  have hurl : (app.binding credentials).get? "url" = some app.address := by simp [get?_binding]
  refine ⟨hcontext, hhostname, hport, hprotocol, ?_, ?_, ?_, fun k v hk => ?_⟩
  · cases hname : credentials.username <;> simp [get?_binding, hname]
  · cases hword : credentials.password <;> simp [get?_binding, hword]
  · obtain ⟨slashes, hsplit, hslashes, hpath⟩ :=
      exists_append_trimStart '/' ((app.provides?.getD default).context.getD "")
    exact ⟨_, _, _, _, slashes, _, hcontext, hhostname, hport, hprotocol, hsplit, hslashes, hpath,
      hurl⟩
  · refine Decidable.byContradiction fun hother => ?_
    simp only [List.mem_cons, List.not_mem_nil, or_false, not_or] at hother
    obtain ⟨h₁, h₂, h₃, h₄, h₅, h₆, h₇⟩ := hother
    simp [get?_binding, h₁, h₂, h₃, h₄, h₅, h₆, h₇] at hk

end Application
end AppOperator
