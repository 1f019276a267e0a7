import BuildLayout.Property.Stage

/-! # Project properties

    The closed list of properties that a build understands, in three families by the kind of
    their value.  A declaration gives a property the title it has in reports, the key by which
    users set it, and its stage; a flag also has a default.  No two properties share a key,
    so a key names at most one property of one family. -/

namespace BuildLayout

/-- The kind of value that a property takes. -/
inductive Family where
  | number
  | flag
  | text
  deriving DecidableEq, Repr

/-- The family in one word. -/
def Family.label : Family → String
  | .number => "integer"
  | .flag => "boolean"
  | .text => "string"

/-- What is declared about a property. -/
structure Declaration where
  title : String
  key : String
  stage : Stage

/-! ## Numbers -/

/-- A property whose value is a whole number. -/
inductive NumberProperty where
  | testShards
  | sdkChannel
  /-- The level of a model-only build that a development environment asks for. -/
  | modelOnlyVersion
  /-- The API level of the one device that a build is for. -/
  | targetDeviceApi
  /-- The buffer, in kilobytes, for reading class files. -/
  | dexReadBuffer
  /-- The buffer, in kilobytes, for writing dex files. -/
  | dexWriteBuffer
  | dexBuckets
  | featuresBeforeOreo
  | aapt2Threads
  | shrinkerWorkers
  /-- At least one: a cap on snapshots; zero: none are kept; below zero: no cap. -/
  | failureSnapshots
  | managedDeviceShards
  /-- Minutes; zero or below never times out. -/
  | managedDeviceTimeout
  /-- Zero or below means no limit. -/
  | managedDeviceLimit
  | threads
  deriving DecidableEq, Repr

namespace NumberProperty

/-- Every number property, in declared order. -/
def all : List NumberProperty :=
  [.testShards, .sdkChannel, .modelOnlyVersion, .targetDeviceApi, .dexReadBuffer,
   .dexWriteBuffer, .dexBuckets, .featuresBeforeOreo, .aapt2Threads, .shrinkerWorkers,
   .failureSnapshots, .managedDeviceShards, .managedDeviceTimeout, .managedDeviceLimit, .threads]

/-- The declaration of the property. -/
def declaration : NumberProperty → Declaration
  | .testShards => ⟨"AndroidTestShardCount", "android.androidTest.numShards", .experimental⟩
  | .sdkChannel => ⟨"AndroidSdkChannel", "android.sdk.channel", .experimental⟩
  | .modelOnlyVersion =>
    ⟨"IdeBuildModelOnlyVersion", "android.injected.build.model.only.versioned", .stable⟩
  | .targetDeviceApi => ⟨"IdeTargetDeviceApi", "android.injected.build.api", .stable⟩
  | .dexReadBuffer => ⟨"DexingReadBufferSize", "android.dexingReadBuffer.size", .experimental⟩
  | .dexWriteBuffer => ⟨"DexingWriteBufferSize", "android.dexingWriteBuffer.size", .experimental⟩
  | .dexBuckets => ⟨"DexingNumberOfBuckets", "android.dexingNumberOfBuckets", .experimental⟩
  | .featuresBeforeOreo =>
    ⟨"PreOMaxNumberOfFeatures", "android.maxNumberOfFeaturesBeforeOreo", .experimental⟩
  | .aapt2Threads => ⟨"Aapt2ThreadPoolSize", "android.aapt2ThreadPoolSize", .experimental⟩
  | .shrinkerWorkers => ⟨"R8MaxWorkers", "android.r8.maxWorkers", .experimental⟩
  | .failureSnapshots =>
    ⟨"TestFailureRetention",
      "android.experimental.testOptions.emulatorSnapshots.maxSnapshotsForTestFailures",
      .experimental⟩
  | .managedDeviceShards =>
    ⟨"ManagedDeviceShardPoolSize", "android.experimental.androidTest.numManagedDeviceShards",
      .experimental⟩
  | .managedDeviceTimeout =>
    ⟨"ManagedDeviceSetupTimeoutMinutes",
      "android.experimental.testOptions.managedDevices.setupTimeoutMinutes", .experimental⟩
  | .managedDeviceLimit =>
    ⟨"ManagedDeviceMaxConcurrentDevices",
      "android.experimental.testOptions.managedDevices.maxConcurrentDevices", .experimental⟩
  | .threads =>
    ⟨"ThreadPoolSize", "android.threadPoolSize",
      .removed .before4 "The android.threadPoolSize property has no effect"⟩

end NumberProperty

/-! ## Flags -/

/-- A property whose value is true or false. -/
inductive FlagProperty where
  | androidX
  | jetifier
  | nonTransitiveResources
  | shrinkerFullMode
  /-- Set by a development environment when it drives the build. -/
  | invokedFromEnvironment
  | buildConfigAsBytecode
  | testFixturesKotlin
  | aapt2
  | d8
  deriving DecidableEq, Repr

namespace FlagProperty

/-- Every flag property, in declared order. -/
def all : List FlagProperty :=
  [.androidX, .jetifier, .nonTransitiveResources, .shrinkerFullMode, .invokedFromEnvironment,
   .buildConfigAsBytecode, .testFixturesKotlin, .aapt2, .d8]

/-- The declaration of the property. -/
def declaration : FlagProperty → Declaration
  | .androidX => ⟨"UseAndroidX", "android.useAndroidX", .stable⟩
  | .jetifier => ⟨"EnableJetifier", "android.enableJetifier", .stable⟩
  | .nonTransitiveResources => ⟨"NonTransitiveRClass", "android.nonTransitiveRClass", .stable⟩
  | .shrinkerFullMode => ⟨"EnableR8FullMode", "android.enableR8.fullMode", .stable⟩
  | .invokedFromEnvironment => ⟨"IdeInvokedFromIde", "android.injected.invoked.from.ide", .stable⟩
  | .buildConfigAsBytecode =>
    ⟨"BuildConfigAsBytecode", "android.enableBuildConfigAsBytecode", .experimental⟩
  | .testFixturesKotlin =>
    ⟨"TestFixturesKotlinSupport", "android.experimental.enableTestFixturesKotlinSupport",
      .experimental⟩
  | .aapt2 =>
    ⟨"EnableAapt2", "android.enableAapt2",
      .removed .before4 "AAPT2 is the only supported resource compiler"⟩
  | .d8 =>
    ⟨"EnableD8", "android.enableD8",
      .removed .v7 "D8 is the only supported dexer; remove this property"⟩

/-- The value of a flag that no source sets. -/
def default : FlagProperty → Bool
  | .nonTransitiveResources | .shrinkerFullMode | .aapt2 | .d8 => true
  | _ => false

end FlagProperty

/-! ## Texts -/

/-- A property whose value is free text. -/
inductive TextProperty where
  /-- Where packages are to be placed. -/
  | apkLocation
  /-- The screen density of the one device that a build is for. -/
  | targetDensity
  /-- The instruction sets of the one device that a build is for. -/
  | targetAbi
  | signingStoreFile
  | aapt2Override
  | lintHeapSize
  | buildCacheDir
  deriving DecidableEq, Repr

namespace TextProperty

/-- Every text property, in declared order. -/
def all : List TextProperty :=
  [.apkLocation, .targetDensity, .targetAbi, .signingStoreFile, .aapt2Override, .lintHeapSize,
   .buildCacheDir]

/-- The declaration of the property. -/
def declaration : TextProperty → Declaration
  | .apkLocation => ⟨"IdeApkLocation", "android.injected.apk.location", .stable⟩
  | .targetDensity => ⟨"IdeBuildTargetDensity", "android.injected.build.density", .stable⟩
  | .targetAbi => ⟨"IdeBuildTargetAbi", "android.injected.build.abi", .stable⟩
  | .signingStoreFile => ⟨"IdeSigningStoreFile", "android.injected.signing.store.file", .stable⟩
  | .aapt2Override => ⟨"Aapt2FromMavenOverride", "android.aapt2FromMavenOverride", .experimental⟩
  | .lintHeapSize => ⟨"LintHeapSize", "android.experimental.lint.heapSize", .experimental⟩
  | .buildCacheDir =>
    ⟨"BuildCacheDir", "android.buildCacheDir",
      .removed .v7
        "The build cache directory is managed by the build engine; remove this property"⟩

end TextProperty

/-! ## All properties -/

/-- A property of any family. -/
inductive Property where
  | number (p : NumberProperty)
  | flag (p : FlagProperty)
  | text (p : TextProperty)
  deriving DecidableEq, Repr

namespace Property

/-- Every property: the numbers, the flags, the texts. -/
def all : List Property :=
  NumberProperty.all.map number ++ FlagProperty.all.map flag ++ TextProperty.all.map text

/-- The kind of value that the property takes. -/
def family : Property → Family
  | .number _ => .number
  | .flag _ => .flag
  | .text _ => .text

/-- The declaration of the property. -/
def declaration : Property → Declaration
  | .number p => p.declaration
  | .flag p => p.declaration
  | .text p => p.declaration

/-- The name that users set the property by. -/
def key (p : Property) : String := p.declaration.key

/-- The stage of the property. -/
def stage (p : Property) : Stage := p.declaration.stage

/-- The property with the given key. -/
def ofKey? (key : String) : Option Property := all.find? (·.key == key)

end Property

end BuildLayout
