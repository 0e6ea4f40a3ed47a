import GradleMigration.Rule.Registry

/-
  The catalog that comes with the program: constructs that the
  ninth major release of Gradle removes or discourages.

  Key definitions include:
    * `Builtin.entries`
    * `Registry.builtin`

  The rules apply in the order of the entries.
-/

------------------------------------------------------------
-- Shared Patterns
------------------------------------------------------------

namespace GradleMigration

namespace Builtin

/-
  An assignment to a property up to the end of its line: the
  first group is the value, the second a comment after it.
-/
def assignmentTo
    (property : String) : String :=
  r"(?m)\b" ++ property ++
    r"[ \t]*=(?!=)[ \t]*([^\r\n]+?)" ++
    r"([ \t]*//[^\r\n]*)?[ \t]*(?=\r?$)"

end Builtin

end GradleMigration

------------------------------------------------------------
-- Entries
------------------------------------------------------------

namespace GradleMigration

namespace Builtin

/- Dependency configurations given with a blank. -/
def deprecatedConfigurations : RuleEntry :=
  { id := "DEPRECATED_CONFIGURATIONS"
    severity := .critical
    title := "Deprecated Configuration Usage"
    description :=
      "The 'compile', 'runtime', 'testCompile', and " ++
        "'testRuntime' configurations are removed in Gradle " ++
        "9. These must be replaced with 'implementation', " ++
        "'runtimeOnly', 'testImplementation', and " ++
        "'testRuntimeOnly' respectively."
    pattern :=
      r"\b(compile|runtime|testCompile|testRuntime)\s+"
    autoFixable := true
    explanation := some <|
      "Gradle 9 has removed the legacy dependency " ++
        "configurations. The matched code '\x7bmatched\x7d' " ++
        "uses a deprecated configuration. This will cause " ++
        "build failures. Migration: compile → " ++
        "implementation, runtime → runtimeOnly, testCompile " ++
        "→ testImplementation, testRuntime → " ++
        "testRuntimeOnly."
    substitutions :=
      [(r"\bcompile(\s+)",
        r"implementation\g<1>"),
       (r"\bruntime(\s+)",
        r"runtimeOnly\g<1>"),
       (r"\btestCompile(\s+)",
        r"testImplementation\g<1>"),
       (r"\btestRuntime(\s+)",
        r"testRuntimeOnly\g<1>")] }

/- Look-ups through the convention object. -/
def deprecatedApi : RuleEntry :=
  { id := "DEPRECATED_API"
    severity := .high
    title := "Deprecated Convention API"
    description :=
      "The Convention API is removed in Gradle 9. Use the " ++
        "newer Provider API and extensions instead. Replace " ++
        "convention.getPlugin() with " ++
        "project.extensions.getByType()."
    pattern :=
      r"\bconvention\s*\.\s*getPlugin|\bconvention\s*\["
    autoFixable := true
    explanation := some <|
      "The Convention API has been removed in Gradle 9. " ++
        "The code '\x7bmatched\x7d' uses this deprecated " ++
        "API. Replace with the Extensions API: " ++
        "project.extensions.getByType(YourExtension.class) " ++
        "or use the Provider API."
    substitutions :=
      [(r"\bconvention\s*\.\s*getPlugin\b",
        "extensions.getByType")] }

/- Assignments to the properties of archive tasks. -/
def archiveName : RuleEntry :=
  { id := "ARCHIVE_NAME"
    severity := .high
    title := "Deprecated Archive Task Properties"
    description :=
      "Direct property assignment for archive tasks is " ++
        "deprecated. Use the Property API: " ++
        "archiveFileName.set(), archiveBaseName.set(), " ++
        "archiveVersion.set(), archiveExtension.set()."
    pattern :=
      r"\barchiveName\s*=|\barchiveBaseName\s*=|" ++
        r"\barchiveVersion\s*=|\barchiveExtension\s*="
    autoFixable := true
    explanation := some <|
      "Archive task properties must now use the Property " ++
        "API. The code '\x7bmatched\x7d' uses direct " ++
        "assignment which is no longer supported. Use " ++
        ".set() method instead: " ++
        "archiveFileName.set('name.jar')"
    substitutions :=
      [(assignmentTo "archiveName",
        r"archiveFileName.set(\g<1>)\g<2>"),
       (assignmentTo "archiveBaseName",
        r"archiveBaseName.set(\g<1>)\g<2>"),
       (assignmentTo "archiveVersion",
        r"archiveVersion.set(\g<1>)\g<2>"),
       (assignmentTo "archiveExtension",
        r"archiveExtension.set(\g<1>)\g<2>")] }

/- Wrappers of a release before the ninth. -/
def gradleVersion : RuleEntry :=
  { id := "GRADLE_VERSION"
    severity := .critical
    title := "Gradle Version Update Required"
    description :=
      "Your project is using an older Gradle version. " ++
        "Gradle 9.x requires updating the wrapper to " ++
        "version 9.0 or higher."
    pattern := r"distributionUrl=.*gradle-[1-8]\.\d+"
    autoFixable := true
    explanation := some <|
      "Your gradle-wrapper.properties specifies an older " ++
        "Gradle version ('\x7bmatched\x7d'). Gradle 9.x " ++
        "requires updating the wrapper. Run: ./gradlew " ++
        "wrapper --gradle-version 9.0.0"
    substitutions :=
      [(r"(distributionUrl=[^\r\n]*gradle-)[1-8]\.\d+" ++
          r"(?:\.\d+)?(?:-rc-\d+)?(-(?:bin|all)\.zip)",
        r"\g<1>9.0.0\g<2>")] }

/- Tasks given by the left shift operator. -/
def taskLeftshift : RuleEntry :=
  { id := "TASK_LEFTSHIFT"
    severity := .high
    title := "Deprecated Task Configuration (<<)"
    description :=
      "The << operator for task configuration is removed. " ++
        "Use doLast \x7b \x7d instead."
    pattern := r"\btask\s+\w+\s*<<"
    autoFixable := true
    kind := "task-leftshift"
    explanation := some <|
      "The << operator for task configuration was " ++
        "removed. The code '\x7bmatched\x7d' must be " ++
        "updated to use doLast \x7b \x7d block instead." }

/- Extra properties by name. -/
def dynamicProperties : RuleEntry :=
  { id := "DYNAMIC_PROPERTIES"
    severity := .medium
    title := "Dynamic Properties Usage"
    description :=
      "Dynamic properties using ext[] are discouraged. " ++
        "Consider using typed extensions or the Provider " ++
        "API for better type safety."
    pattern := r"\bproject\.ext\[|\bext\["
    explanation := some <|
      "The code '\x7bmatched\x7d' reads or writes a " ++
        "dynamic extra property. Declare a typed extension " ++
        "or a Provider-backed property instead so the value " ++
        "is type-checked and lazily configured." }

/- Getters that have become properties. -/
def deprecatedMethods : RuleEntry :=
  { id := "DEPRECATED_METHODS"
    severity := .high
    title := "Deprecated Gradle API Methods"
    description :=
      "Methods like getArchivePath(), getClassesDir(), " ++
        "and getDestinationDir() are removed. Use " ++
        "archiveFile.get(), classesDirectory.get(), and " ++
        "destinationDirectory.get() respectively."
    pattern :=
      r"\b(getArchivePath|getClassesDir|getDestinationDir)\s*\("
    autoFixable := true
    explanation := some <|
      "The method in '\x7bmatched\x7d' has been removed " ++
        "in Gradle 9. Use the Property API equivalents: " ++
        "getArchivePath() → archiveFile.get(), " ++
        "getClassesDir() → classesDirectory.get(), " ++
        "getDestinationDir() → destinationDirectory.get()"
    substitutions :=
      [(r"\bgetArchivePath\s*\(\s*\)",
        "archiveFile.get()"),
       (r"\bgetClassesDir\s*\(\s*\)",
        "classesDirectory.get()"),
       (r"\bgetDestinationDir\s*\(\s*\)",
        "destinationDirectory.get()")] }

/- Dependency configurations given with parentheses. -/
def deprecatedDependencyConfig : RuleEntry :=
  { id := "DEPRECATED_DEPENDENCY_CONFIG"
    severity := .critical
    title := "Deprecated Dependency Configuration Methods"
    description :=
      "Dependency configuration methods compile(), " ++
        "runtime(), testCompile(), and testRuntime() are " ++
        "removed. Use implementation(), runtimeOnly(), " ++
        "testImplementation(), and testRuntimeOnly()."
    pattern :=
      r"\b(compile|runtime|testCompile|testRuntime)\s*\("
    autoFixable := true
    explanation := some <|
      "Dependency configuration method '\x7bmatched\x7d' " ++
        "is removed in Gradle 9. Update to use " ++
        "implementation(), runtimeOnly(), " ++
        "testImplementation(), or testRuntimeOnly()."
    substitutions :=
      [(r"\bcompile(\s*)\(",
        r"implementation\g<1>("),
       (r"\bruntime(\s*)\(",
        r"runtimeOnly\g<1>("),
       (r"\btestCompile(\s*)\(",
        r"testImplementation\g<1>("),
       (r"\btestRuntime(\s*)\(",
        r"testRuntimeOnly\g<1>(")] }

/- Plugins put on the classpath by hand. -/
def buildscriptClasspath : RuleEntry :=
  { id := "BUILDSCRIPT_CLASSPATH"
    severity := .medium
    title := "Legacy Buildscript Classpath"
    description :=
      "Consider migrating to the plugins \x7b\x7d block " ++
        "instead of buildscript \x7b\x7d for plugin " ++
        "dependencies. This provides better dependency " ++
        "resolution and version management."
    pattern :=
      "buildscript\\s*\\\x7b[^\x7d]*classpath\\s+['\"]"
    explanation := some <|
      "The buildscript block puts plugins on the " ++
        "classpath manually. Move each plugin to the " ++
        "plugins \x7b id '...' version '...' \x7d block and " ++
        "remove the classpath entry." }

/- The single output directory of a source set. -/
def sourcesetOutput : RuleEntry :=
  { id := "SOURCESET_OUTPUT"
    severity := .high
    title := "Deprecated SourceSet Output Property"
    description :=
      "The classesDir property is removed. Use " ++
        "classesDirs (plural) which returns a " ++
        "FileCollection."
    pattern := r"sourceSets\.\w+\.output\.classesDir\b"
    autoFixable := true
    explanation := some <|
      "The classesDir property is removed. Use " ++
        "classesDirs (plural) which returns a " ++
        "FileCollection containing all output directories " ++
        "for the source set."
    substitutions :=
      [(r"(sourceSets\.\w+\.output\.classesDir)\b",
        r"\g<1>s")] }

/- Task types that are gone. -/
def deprecatedTaskTypes : RuleEntry :=
  { id := "DEPRECATED_TASK_TYPES"
    severity := .high
    title := "Deprecated Task Types"
    description :=
      "Task types like Upload and InstallTask are " ++
        "removed. Use the maven-publish or ivy-publish " ++
        "plugins instead."
    pattern := r"\b(Upload|InstallTask)\b"
    explanation := some <|
      "The task type '\x7bmatched\x7d' no longer exists. " ++
        "Apply the maven-publish or ivy-publish plugin and " ++
        "declare a publication instead of an upload task." }

/- Assignments to the properties of a project. -/
def deprecatedProperties : RuleEntry :=
  { id := "DEPRECATED_PROPERTIES"
    severity := .medium
    title := "Direct Property Assignment"
    description :=
      "Direct assignment to properties like " ++
        "archivesBaseName is deprecated. Use " ++
        "base.archivesName.set() for archivesBaseName in " ++
        "Gradle 9."
    pattern := r"\b(archivesBaseName|version|group)\s*="
    autoFixable := true
    explanation := some <|
      "Direct property assignment '\x7bmatched\x7d' " ++
        "should be migrated to the Property API. For " ++
        "archivesBaseName, use: base \x7b " ++
        "archivesName.set('name') \x7d"
    substitutions :=
      [(assignmentTo "archivesBaseName",
        "base \x7b archivesName.set(\\g<1>) \x7d\\g<2>")] }

/- The entries in the order in which their rules apply. -/
def entries : List RuleEntry :=
  [deprecatedConfigurations,
   deprecatedApi,
   archiveName,
   gradleVersion,
   taskLeftshift,
   dynamicProperties,
   deprecatedMethods,
   deprecatedDependencyConfig,
   buildscriptClasspath,
   sourcesetOutput,
   deprecatedTaskTypes,
   deprecatedProperties]

end Builtin

end GradleMigration

------------------------------------------------------------
-- The Registry
------------------------------------------------------------

namespace GradleMigration

namespace Registry

/- How messages call the catalog. -/
def builtinSource : String :=
  "built-in catalog"

/- The rules that come with the program. -/
def builtin : Registry :=
  match ofEntries builtinSource Builtin.entries with
  | .ok registry => registry
  | .error _ => .empty

end Registry

end GradleMigration
