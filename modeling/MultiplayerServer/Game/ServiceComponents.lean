import Mathlib.Data.List.Forall2
import Mathlib.Data.List.TakeWhile
import MultiplayerServer.Game.GameMain

/-!
# Game/ServiceComponents — the components a service is configured with

An entry of the services section names the components of its service, as the login section does for
a client.  `init_all_game_services` hands on the name of the service, and nothing else of the entry.

* `World.carries_onClientConnected` — a client has the components that are named for it;
* `installed_iff` — the services have the components of their entries exactly when no entry that a
  service is made of names a component that there is.
-/

namespace MultiplayerServer

namespace Objects

/-- What `init_components` knows by the names in a list. -/
def knownComponents (names : List String) : List TypeName :=
  names.filterMap fun name => if name = "NetworkComponent" then some networkComponent else none

variable {o : Objects} {e e' : EntityRef} {T T' : TypeName}

theorem mem_knownComponents {names : List String} :
    T ∈ knownComponents names ↔ "NetworkComponent" ∈ names ∧ T = networkComponent := by
  simp [knownComponents, eq_comm]

/-- **What `init_components` adds** is what it knows. -/
theorem isSome_getComponent_initComponents (he : e < o.entities.length) (names : List String) :
    ((o.initComponents e names).getComponent e T).isSome
      ↔ (o.getComponent e T).isSome ∨ T ∈ knownComponents names := by
  rw [initComponents_eq he, mem_knownComponents]
  by_cases hmem : "NetworkComponent" ∈ names
  · rw [if_pos hmem, and_iff_right hmem]
    rcases hfree : o.getComponent e networkComponent with _ | c
    · rw [addComponent_of_free hfree,
        getComponent_emplace _ (by simpa using he) (by simpa using hfree)]
      by_cases hT : T = networkComponent
      · simp [hT]
      · simp [hT]
    · rw [addComponent_of_stored hfree]
      refine (or_iff_left_of_imp ?_).symm
      rintro rfl
      rw [hfree]
      rfl
  · simp [hmem]

/-- …and that is all a client gets. -/
theorem getComponent_serveClient (o : Objects) (e service e' : EntityRef) (names : List String)
    (connection : ConnectionRef) (T : TypeName) :
    (o.serveClient e service names connection).getComponent e' T
      = (o.initComponents e names).getComponent e' T := by
  have hinit : (if names.length > 0 then o.initComponents e names else o)
      = o.initComponents e names := by
    rcases names with _ | ⟨name, names⟩
    · rfl
    · exact if_pos (Nat.succ_pos _)
  simp only [serveClient, hinit]
  split
  · rw [getComponent_registerDisconnectHandler, getComponent_setConnection]
  · rfl

end Objects

/-- An entity has the components in a list that are known, and no others. -/
def World.Carries (w : World) (names : List String) (e : EntityRef) : Prop :=
  ∀ T, (w.objects.getComponent e T).isSome ↔ T ∈ Objects.knownComponents names

/-- **A client carries the components of the login section.** -/
theorem World.carries_onClientConnected (generator : ℕ → String) (w : World) {config : GameConfig}
    {data : LoginEntityConfig} (service : EntityRef) (connection : ConnectionRef)
    (hdata : config.loginEntityConfig = some data)
    (hclass : data.entityClassName = "ServerEntity") :
    (w.onClientConnected generator config service connection).2.Carries data.entityComponents
      w.objects.entities.length := by
  intro T
  obtain ⟨hlt, hfree⟩ := Objects.getComponent_made (o := w.objects) (T := T)
    (.make (w.nextId generator) (.serverEntity (.ofString data.entityType) (w.proxy service).ip
      (w.proxy service).port))
  rw [onClientConnected_eq hdata hclass]
  refine (iff_of_eq (congrArg (fun c => c.isSome = true)
    (Objects.getComponent_serveClient _ _ _ _ _ _ _))).trans ?_
  refine (Objects.isSome_getComponent_initComponents hlt _).trans ?_
  rw [hfree]
  simp

namespace GameMain

variable (generator : ℕ → String) (g : GameMain)

/-- The entries of a list that services are made of: an empty name is passed over, and one without
a handler ends the list. -/
def handledServices (services : List GameServiceConfig) : List GameServiceConfig :=
  (services.filter fun service => service.serviceName ≠ "").takeWhile fun service =>
    service.serviceName ∈ g.gameServicesCreateHandler

/-- **Every service a call makes is the one its entry asks for**: of that name, and with those
components. -/
def Installed : Prop :=
  List.Forall₂ (fun service made => made.1 = service.serviceName
      ∧ (g.initAllGameServices generator).2.world.Carries service.serviceComponents made.2)
    (g.handledServices (g.gameConfig.gameServiceConfigs.getD []))
    ((g.initAllGameServices generator).2.created.drop g.created.length)

variable {generator g} {services : List GameServiceConfig}

theorem handledServices_cons_of_empty {service : GameServiceConfig}
    (hname : service.serviceName = "") :
    g.handledServices (service :: services) = g.handledServices services := by
  rw [handledServices, List.filter_cons_of_neg (by simpa using hname), handledServices]

theorem handledServices_cons_of_unhandled {service : GameServiceConfig}
    (hname : service.serviceName ≠ "")
    (hhandler : service.serviceName ∉ g.gameServicesCreateHandler) :
    g.handledServices (service :: services) = [] := by
  rw [handledServices, List.filter_cons_of_pos (by simpa using hname),
    List.takeWhile_cons_of_neg (by simpa using hhandler)]

theorem handledServices_cons_of_handled {service : GameServiceConfig}
    (hname : service.serviceName ≠ "")
    (hhandler : service.serviceName ∈ g.gameServicesCreateHandler) :
    g.handledServices (service :: services) = service :: g.handledServices services := by
  rw [handledServices, List.filter_cons_of_pos (by simpa using hname),
    List.takeWhile_cons_of_pos (by simpa using hhandler), handledServices]

/-- A list of known names is made services of to its end. -/
theorem handledServices_eq_filter (h : ∀ service ∈ services,
    service.serviceName ≠ "" → service.serviceName ∈ g.gameServicesCreateHandler) :
    g.handledServices services = services.filter fun service => service.serviceName ≠ "" := by
  refine List.takeWhile_eq_self_iff.mpr fun service hservice => ?_
  obtain ⟨hmem, hname⟩ := List.mem_filter.mp hservice
  simpa using h service hmem (by simpa using hname)

/-- A service is a new entity, -/
theorem createService_fst (generator : ℕ → String) (g : GameMain) (handler : CreateHandler) :
    (g.createService generator handler).1 = g.world.objects.entities.length := by
  cases handler
  rfl

theorem length_createService (generator : ℕ → String) (g : GameMain) (handler : CreateHandler) :
    (g.createService generator handler).2.objects.entities.length
      = g.world.objects.entities.length + 1 := by
  cases handler
  exact (Objects.makeEntity_frame _).2.1

/-- …and making it gives no entity a component. -/
theorem getComponent_createService (generator : ℕ → String) (g : GameMain)
    (handler : CreateHandler) (e : EntityRef) (T : TypeName) :
    (g.createService generator handler).2.objects.getComponent e T
      = g.world.objects.getComponent e T := by
  cases handler
  exact Objects.getComponent_makeEntity _

/-- **No call gives a service a component.** -/
theorem getComponent_initAllGameServices (generator : ℕ → String) (g : GameMain) (e : EntityRef)
    (T : TypeName) : (g.initAllGameServices generator).2.world.objects.getComponent e T
      = g.world.objects.getComponent e T := by
  refine initAllGameServices_keeps
    (P := fun g' => g'.world.objects.getComponent e T = g.world.objects.getComponent e T)
    (fun {g' name result} hg' hinits => ?_) rfl
  rcases hinits with _ | _ | ⟨-, -, handler⟩
  · exact hg'
  · exact hg'
  · exact (getComponent_createService generator g' handler e T).trans hg'

/-- **What the loop makes** is a new entity for each of these entries, under its name. -/
theorem created_initGameServices (generator : ℕ → String) (g : GameMain)
    (services : List GameServiceConfig) :
    ∃ made, (g.initGameServices generator services).2.created = g.created ++ made
      ∧ List.Forall₂ (fun service p => p.1 = service.serviceName
        ∧ g.world.objects.entities.length ≤ p.2) (g.handledServices services) made := by
  induction services generalizing g with
  | nil => exact ⟨[], (List.append_nil _).symm, .nil⟩
  | cons service services ih =>
    have hinits := inits_initGameService generator g service.serviceName
    rw [initGameServices]
    generalize g.initGameService generator service.serviceName = result at hinits ⊢
    rcases hinits with hname | ⟨hname, hhandler⟩ | ⟨hname, hhandler, handler⟩
    · rw [handledServices_cons_of_empty hname]
      exact ih g
    · rw [handledServices_cons_of_unhandled hname hhandler]
      exact ⟨[], (List.append_nil _).symm, .nil⟩
    · obtain ⟨made, hcreated, hmade⟩ := ih ({ g with
        world := (g.createService generator handler).2
        created := g.created ++ [(service.serviceName, (g.createService generator handler).1)]
          : GameMain }.recordGameService service.serviceName (g.createService generator handler).1)
      refine ⟨(service.serviceName, (g.createService generator handler).1) :: made, ?_, ?_⟩
      · refine hcreated.trans ?_
        rw [created_recordGameService, List.append_assoc]
        rfl
      · rw [handledServices_cons_of_handled hname hhandler]
        refine .cons ⟨rfl, (createService_fst generator g handler).ge⟩ (hmade.imp fun _ p h => ?_)
        have hlen := (length_createService generator g handler).symm.trans_le h.2
        exact ⟨h.1, by omega⟩

/-- **A new service** has no component at all, so it is as its entry asks where that knows none. -/
theorem carries_iff {names : List String} {e : EntityRef}
    (he : g.world.objects.entities.length ≤ e) :
    (g.initAllGameServices generator).2.world.Carries names e ↔ "NetworkComponent" ∉ names := by
  have hnone (T : TypeName) :
      (g.initAllGameServices generator).2.world.objects.getComponent e T = none := by
    rw [getComponent_initAllGameServices, Objects.getComponent, List.getElem?_eq_none he]
    rfl
  simp [World.Carries, hnone, Objects.mem_knownComponents]

end GameMain

open GameMain

/-- **Services are installed exactly when none of them asks for a component there is**, whatever
the configuration and whatever there was before. -/
theorem installed_iff (generator : ℕ → String) (g : GameMain) :
    g.Installed generator
      ↔ ∀ service ∈ g.handledServices (g.gameConfig.gameServiceConfigs.getD []),
        "NetworkComponent" ∉ service.serviceComponents := by
  obtain ⟨made, hcreated, hmade⟩ : ∃ made,
      (g.initAllGameServices generator).2.created = g.created ++ made
        ∧ List.Forall₂ (fun service p => p.1 = service.serviceName
          ∧ g.world.objects.entities.length ≤ p.2)
          (g.handledServices (g.gameConfig.gameServiceConfigs.getD [])) made := by
    rw [initAllGameServices]
    rcases g.gameConfig.gameServiceConfigs with _ | services
    · exact ⟨[], (List.append_nil _).symm, .nil⟩
    · exact created_initGameServices generator g services
  rw [Installed, hcreated, List.drop_left]
  constructor
  · intro h
    have hnone : List.Forall₂ (fun (service : GameServiceConfig) (p : String × EntityRef) =>
        "NetworkComponent" ∉ service.serviceComponents ∧ p.1 = service.serviceName) _ made :=
      hmade.mp (fun _ _ hp hcarries => ⟨(carries_iff hp.2).mp hcarries.2, hp.1⟩) h
    exact ((List.forall₂_and_left _ _).mp hnone).1
  · intro h
    exact ((List.forall₂_and_left _ _).mpr ⟨h, hmade⟩).imp fun _ _ hp =>
      ⟨hp.2.1, (carries_iff hp.2.2).mpr hp.1⟩

/-- A login service that is to have a `NetworkComponent`. -/
theorem not_installed_of_networkComponent :
    ¬ (construct ⟨((∅ : Std.ExtTreeMap String ConfigValue).insert GameConfig.serverConfigStr
          (.server ⟨"127.0.0.1", 8080, 2⟩)).insert GameConfig.servicesConfigStr
          (.services [⟨"LoginService", ["NetworkComponent"]⟩])⟩
        (World.construct fun n => String.ofList (List.replicate n 'x'))).Installed
      (fun n => String.ofList (List.replicate n 'x')) := by
  intro h
  have hlist : List.Forall₂ _ [(⟨"LoginService", ["NetworkComponent"]⟩ : GameServiceConfig)]
    [("LoginService", 0)] := h
  have hcarries := (List.forall₂_cons.mp hlist).1.2 networkComponent
  revert hcarries
  decide

end MultiplayerServer
