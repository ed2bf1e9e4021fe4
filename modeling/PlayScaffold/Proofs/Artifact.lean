import PlayScaffold.Artifact
import Mathlib.Data.List.Infix
import Mathlib.Data.List.Nodup

/-!
# Where files are written

A file of a class is named by the class and a suffix, and neither can be mistaken for another:

    p.apiDestination a c = p.apiDestination b d → a = b ∧ c = d      (apiDestination_injective)

No supporting file ends in one of the suffixes but the documentation controller, which is written
where the controller of a class `ApiDoc` is.  That pair is the only one that can meet:

    ((assemble o).bindings classes).map (·.destination) is without duplicates ↔
      ¬ (o.useSwaggerUI = true ∧ "ApiDoc" ∈ classes)                 (nodup_destinations_iff)
-/

namespace PlayScaffold

/-! ## Suffixes -/

/-- No suffix of an artifact ends in that of another. -/
theorem ApiArtifact.eq_of_suffix (a b : ApiArtifact)
    (h : a.suffix.toList <:+ b.suffix.toList) : a = b := by
  revert h
  cases a <;> cases b <;> decide

namespace Plan

theorem apiDestination_toList (p : Plan) (a : ApiArtifact) (c : String) :
    (p.apiDestination a c).toList =
      (p.apiFolder ++ "/").toList ++ (c.toList ++ a.suffix.toList) := by
  simp only [apiDestination, String.toList_append, List.append_assoc]

/-- **The destination tells the class and the artifact.** -/
theorem apiDestination_injective (p : Plan) (a b : ApiArtifact) (c d : String)
    (h : p.apiDestination a c = p.apiDestination b d) : a = b ∧ c = d := by
  have hlist := congrArg String.toList h
  rw [apiDestination_toList, apiDestination_toList] at hlist
  replace hlist := List.append_cancel_left hlist
  have hab : a = b := by
    have ha : a.suffix.toList <:+ d.toList ++ b.suffix.toList := hlist ▸ List.suffix_append _ _
    rcases List.suffix_or_suffix_of_suffix ha (List.suffix_append _ _) with hs | hs
    · exact ApiArtifact.eq_of_suffix a b hs
    · exact (ApiArtifact.eq_of_suffix b a hs).symm
  subst hab
  exact ⟨rfl, String.toList_injective (List.append_cancel_right hlist)⟩

/-! ## Files of classes -/

theorem nodup_apiArtifacts (o : Options) : (assemble o).apiArtifacts.Nodup := by
  show ([ApiArtifact.controller] ++ only (!o.controllerOnly) ApiArtifact.implementation
    ++ only (!o.controllerOnly && o.useInterfaces) ApiArtifact.interface).Nodup
  cases o.controllerOnly <;> cases o.useInterfaces <;> decide

theorem controller_mem_apiArtifacts (o : Options) :
    ApiArtifact.controller ∈ (assemble o).apiArtifacts := by
  show ApiArtifact.controller ∈ [ApiArtifact.controller] ++ _ ++ _
  simp

def classDestinations (p : Plan) (classes : List String) : List String :=
  classes.flatMap fun c => p.apiArtifacts.map fun a => p.apiDestination a c

theorem mem_classDestinations (p : Plan) (classes : List String) (s : String) :
    s ∈ p.classDestinations classes ↔
      ∃ c ∈ classes, ∃ a ∈ p.apiArtifacts, p.apiDestination a c = s := by
  simp [classDestinations, List.mem_flatMap]

theorem nodup_classDestinations (p : Plan) (classes : List String) (hp : p.apiArtifacts.Nodup)
    (hc : classes.Nodup) : (p.classDestinations classes).Nodup := by
  rw [classDestinations, List.nodup_flatMap]
  refine ⟨fun c _ => hp.map fun a b h => (p.apiDestination_injective a b c c h).1, ?_⟩
  refine hc.imp fun {c d} hcd s hs hs' => ?_
  obtain ⟨a, -, rfl⟩ := List.mem_map.mp hs
  obtain ⟨b, -, h⟩ := List.mem_map.mp hs'
  exact hcd (p.apiDestination_injective b a d c h).2.symm

/-! ## Supporting files -/

theorem map_only {α β : Type} (f : α → β) (wanted : Bool) (file : α) :
    (only wanted file).map f = only wanted (f file) := by
  cases wanted <;> rfl

/-- The supporting files whose names do not depend on the package of the controllers. -/
def fixedFiles (withInterfaces handleExceptions wrapCalls useSwaggerUI : Bool) :
    List SupportingFile :=
  [⟨"README.tera", "", "README"⟩, ⟨"LICENSE.tera", "", "LICENSE"⟩, ⟨"build.tera", "", "build.sbt"⟩,
    ⟨"buildproperties.tera", "project", "build.properties"⟩,
    ⟨"plugins.tera", "project", "plugins.sbt"⟩, ⟨"logback.tera", "conf", "logback.xml"⟩,
    ⟨"application.tera", "conf", "application.conf"⟩, ⟨"routes.tera", "conf", "routes"⟩]
  ++ only withInterfaces ⟨"module.tera", "app", "Module.java"⟩
  ++ [⟨"openapiUtils.tera", "app/openapitools", "OpenAPIUtils.java"⟩,
    ⟨"securityApiUtils.tera", "app/openapitools", "SecurityAPIUtils.java"⟩]
  ++ only handleExceptions ⟨"errorHandler.tera", "app/openapitools", "ErrorHandler.java"⟩
  ++ only wrapCalls ⟨"apiCall.tera", "app/openapitools", "ApiCall.java"⟩
  ++ only useSwaggerUI ⟨"openapi.tera", "public", "openapi.json"⟩

def fixedDestinations (withInterfaces handleExceptions wrapCalls useSwaggerUI : Bool) :
    List String :=
  (fixedFiles withInterfaces handleExceptions wrapCalls useSwaggerUI).map (·.destination)

theorem nodup_fixedDestinations (withInterfaces handleExceptions wrapCalls useSwaggerUI : Bool) :
    (fixedDestinations withInterfaces handleExceptions wrapCalls useSwaggerUI).Nodup := by
  revert withInterfaces handleExceptions wrapCalls useSwaggerUI
  decide

/-- None of them is named like a file of a class. -/
theorem not_suffix_fixedDestinations
    (withInterfaces handleExceptions wrapCalls useSwaggerUI : Bool) (a : ApiArtifact) (s : String)
    (h : s ∈ fixedDestinations withInterfaces handleExceptions wrapCalls useSwaggerUI) :
    ¬ a.suffix.toList <:+ s.toList := by
  revert s
  revert withInterfaces handleExceptions wrapCalls useSwaggerUI
  cases a <;> decide

theorem packageFolder_ne_empty (package : String) : packageFolder package ≠ "" := by
  intro h
  have hlist := congrArg String.toList h
  rw [packageFolder, String.toList_append] at hlist
  exact List.append_ne_nil_of_left_ne_nil (by decide) _ hlist

/-- The controller of the documentation, which stands beside the controllers of the classes. -/
def documentationFile (o : Options) : SupportingFile :=
  ⟨"apiDocController.tera", packageFolder o.apiPackage, "ApiDocController.java"⟩

/-- It is written where the controller of a class `ApiDoc` is. -/
theorem destination_documentationFile (o : Options) :
    (documentationFile o).destination = (assemble o).apiDestination .controller "ApiDoc" := by
  have hfolder : (documentationFile o).folder ≠ "" := packageFolder_ne_empty o.apiPackage
  rw [SupportingFile.destination, if_neg hfolder]
  show packageFolder o.apiPackage ++ "/" ++ ("ApiDoc" ++ "Controller.java") = _
  rw [← String.append_assoc]
  rfl

/-! ## All files -/

theorem supportingFiles_assemble (o : Options) : (assemble o).supportingFiles =
    fixedFiles (!o.controllerOnly && o.useInterfaces) o.handleExceptions o.wrapCalls o.useSwaggerUI
      ++ only o.useSwaggerUI (documentationFile o) := rfl

/-- The destinations that the options alone decide, the documentation controller's apart. -/
def plainDestinations (o : Options) : List String :=
  fixedDestinations (!o.controllerOnly && o.useInterfaces) o.handleExceptions o.wrapCalls
    o.useSwaggerUI

theorem map_destination_bindings (o : Options) (classes : List String) :
    ((assemble o).bindings classes).map (·.destination) =
      plainDestinations o
        ++ only o.useSwaggerUI ((assemble o).apiDestination .controller "ApiDoc")
        ++ (assemble o).classDestinations classes := by
  have hsupporting : (assemble o).supportingFiles.map (·.destination) = plainDestinations o
      ++ only o.useSwaggerUI ((assemble o).apiDestination .controller "ApiDoc") := by
    rw [supportingFiles_assemble, List.map_append, map_only, destination_documentationFile]
    rfl
  rw [← hsupporting, bindings, List.map_append, List.map_map, List.map_flatMap]
  simp only [List.map_map]
  rfl

theorem plain_disjoint_apiDestination (o : Options) (a : ApiArtifact) (c : String) :
    (assemble o).apiDestination a c ∉ plainDestinations o := by
  intro hmem
  refine not_suffix_fixedDestinations _ _ _ _ a _ hmem ?_
  rw [apiDestination_toList, ← List.append_assoc]
  exact List.suffix_append _ _

theorem plain_disjoint_classes (o : Options) (classes : List String) :
    (plainDestinations o).Disjoint ((assemble o).classDestinations classes) := by
  intro s hplain hclass
  obtain ⟨c, -, a, -, rfl⟩ := (mem_classDestinations _ _ _).mp hclass
  exact plain_disjoint_apiDestination o a c hplain

theorem controller_mem_classDestinations (o : Options) (classes : List String) (c : String) :
    (assemble o).apiDestination .controller c ∈ (assemble o).classDestinations classes ↔
      c ∈ classes := by
  rw [mem_classDestinations]
  constructor
  · rintro ⟨d, hd, a, -, h⟩
    exact ((assemble o).apiDestination_injective a .controller d c h).2 ▸ hd
  · intro hc
    exact ⟨c, hc, .controller, controller_mem_apiArtifacts o, rfl⟩

/-- **No two files meet** but the controller of the documentation and that of a class `ApiDoc`. -/
theorem nodup_destinations_iff (o : Options) (classes : List String) (hc : classes.Nodup) :
    (((assemble o).bindings classes).map (·.destination)).Nodup ↔
      ¬ (o.useSwaggerUI = true ∧ "ApiDoc" ∈ classes) := by
  have hplain : (plainDestinations o).Nodup := nodup_fixedDestinations _ _ _ _
  have hclasses := nodup_classDestinations (assemble o) classes (nodup_apiArtifacts o) hc
  rw [map_destination_bindings, List.append_assoc, List.nodup_append']
  cases o.useSwaggerUI with
  | false =>
    simp only [only, Bool.false_eq_true, if_false, List.nil_append, false_and, not_false_iff,
      iff_true]
    exact ⟨hplain, hclasses, plain_disjoint_classes o classes⟩
  | true =>
    simp only [only, if_true, List.singleton_append, List.nodup_cons, true_and,
      controller_mem_classDestinations, List.disjoint_cons_right]
    constructor
    · rintro ⟨-, ⟨hdoc, -⟩, -⟩
      exact hdoc
    · intro hdoc
      exact ⟨hplain, ⟨hdoc, hclasses⟩, plain_disjoint_apiDestination o _ _,
        plain_disjoint_classes o classes⟩

/-- Is the file any but the controller of the documentation? -/
def isOrdinary (b : Binding) : Bool := b.template != "apiDocController.tera"

/-- Whatever the classes, all other files are apart. -/
theorem nodup_ordinary (o : Options) (classes : List String) (hc : classes.Nodup) :
    ((((assemble o).bindings classes).filter isOrdinary).map (·.destination)).Nodup := by
  have hsupporting : ((assemble o).supportingFiles.map supportingBinding).filter isOrdinary =
      (fixedFiles (!o.controllerOnly && o.useInterfaces) o.handleExceptions o.wrapCalls
        o.useSwaggerUI).map supportingBinding := by
    rw [supportingFiles_assemble, List.map_append, List.filter_append]
    cases o.controllerOnly <;> cases o.useInterfaces <;> cases o.handleExceptions <;>
      cases o.wrapCalls <;> cases o.useSwaggerUI <;> rfl
  have hclass : (classes.flatMap fun c =>
      (assemble o).apiArtifacts.map ((assemble o).classBinding c)).filter isOrdinary =
      classes.flatMap fun c => (assemble o).apiArtifacts.map ((assemble o).classBinding c) := by
    refine List.filter_eq_self.mpr fun b hb => ?_
    obtain ⟨c, -, hb⟩ := List.mem_flatMap.mp hb
    obtain ⟨a, -, rfl⟩ := List.mem_map.mp hb
    show (a.template != "apiDocController.tera") = true
    cases a <;> decide
  rw [bindings, List.filter_append, hsupporting, hclass, List.map_append, List.map_map,
    List.map_flatMap]
  simp only [List.map_map]
  exact List.nodup_append'.mpr ⟨nodup_fixedDestinations _ _ _ _,
    nodup_classDestinations (assemble o) classes (nodup_apiArtifacts o) hc,
    plain_disjoint_classes o classes⟩

end Plan

end PlayScaffold
