import Mathlib

namespace DbFree

/-- Every database the workbench can open. -/
inductive Engine where
  | postgres | mysql | mariadb | mssql | oracle | mongodb | couchdb | firestore | convex | redis
  | valkey | dynamodb | cassandra | scylladb | hbase | neo4j | memgraph | tigergraph
  | timescaledb | influxdb | victoriametrics | prometheus | questdb | qdrant | milvus | weaviate
  | pinecone | chroma | pgvector | elasticsearch | opensearch | meilisearch | typesense
  | arangodb | surrealdb | orientdb | postgis | spatialite | memcached | dragonfly | clickhouse
  | duckdb | druid | snowflake | bigquery | cockroachdb | tidb | yugabytedb | spacetimedb
  | sqlite | rocksdb | libsql | valTown | cloudflareD1 | supabase | planetscale
  | planetscalePostgres | neon | immudb | qldb | kafka | redpanda | rabbitmq | objectdb | s3
  | minio | cloudflareR2 | ibmIms | raimaRdm | basex | existdb | apacheJena | graphdb | stardog
  | blazegraph | virtuoso
deriving DecidableEq

/-- The adapter module that speaks an engine's wire protocol. -/
inductive Family where
  | postgres | mysql | mssql | oracle | sqlite | duckdb | rocksdb | clickhouse | redis
  | memcached | mongodb | couchdb | firestore | dynamodb | cassandra | hbase | neo4j | tigergraph
  | influxdb | prometheus | qdrant | milvus | weaviate | pinecone | chroma | elasticsearch
  | meilisearch | typesense | arangodb | surrealdb | orientdb | druid | snowflake | bigquery
  | libsql | valTown | cloudflareD1 | immudb | qldb | kafka | rabbitmq | convex | objectdb
  | sparql | basex | existdb | spacetimedb | s3
deriving DecidableEq

/-- Many engines share one adapter. -/
def Engine.family : Engine → Family
  | .postgres | .supabase | .neon | .timescaledb | .questdb | .pgvector | .postgis
  | .cockroachdb | .yugabytedb | .planetscalePostgres | .ibmIms | .raimaRdm => .postgres
  | .mysql | .mariadb | .planetscale | .tidb => .mysql
  | .mssql => .mssql
  | .oracle => .oracle
  | .sqlite | .spatialite => .sqlite
  | .duckdb => .duckdb
  | .rocksdb => .rocksdb
  | .clickhouse => .clickhouse
  | .redis | .valkey | .dragonfly => .redis
  | .memcached => .memcached
  | .mongodb => .mongodb
  | .couchdb => .couchdb
  | .firestore => .firestore
  | .dynamodb => .dynamodb
  | .cassandra | .scylladb => .cassandra
  | .hbase => .hbase
  | .neo4j | .memgraph => .neo4j
  | .tigergraph => .tigergraph
  | .influxdb => .influxdb
  | .victoriametrics | .prometheus => .prometheus
  | .qdrant => .qdrant
  | .milvus => .milvus
  | .weaviate => .weaviate
  | .pinecone => .pinecone
  | .chroma => .chroma
  | .elasticsearch | .opensearch => .elasticsearch
  | .meilisearch => .meilisearch
  | .typesense => .typesense
  | .arangodb => .arangodb
  | .surrealdb => .surrealdb
  | .orientdb => .orientdb
  | .druid => .druid
  | .snowflake => .snowflake
  | .bigquery => .bigquery
  | .libsql => .libsql
  | .valTown => .valTown
  | .cloudflareD1 => .cloudflareD1
  | .spacetimedb => .spacetimedb
  | .s3 | .minio | .cloudflareR2 => .s3
  | .immudb => .immudb
  | .qldb => .qldb
  | .kafka | .redpanda => .kafka
  | .rabbitmq => .rabbitmq
  | .convex => .convex
  | .objectdb => .objectdb
  | .apacheJena | .graphdb | .stardog | .blazegraph | .virtuoso => .sparql
  | .basex => .basex
  | .existdb => .existdb

/-- The engine's name as the user reads it. -/
def Engine.label : Engine → String
  | .postgres => "PostgreSQL"
  | .mysql => "MySQL"
  | .mariadb => "MariaDB"
  | .mssql => "SQL Server"
  | .oracle => "Oracle Database"
  | .mongodb => "MongoDB"
  | .couchdb => "CouchDB"
  | .firestore => "Firestore"
  | .redis => "Redis"
  | .valkey => "Valkey"
  | .dynamodb => "DynamoDB"
  | .cassandra => "Cassandra"
  | .scylladb => "ScyllaDB"
  | .hbase => "HBase"
  | .neo4j => "Neo4j"
  | .memgraph => "Memgraph"
  | .tigergraph => "TigerGraph"
  | .timescaledb => "TimescaleDB"
  | .influxdb => "InfluxDB"
  | .victoriametrics => "VictoriaMetrics"
  | .prometheus => "Prometheus"
  | .questdb => "QuestDB"
  | .qdrant => "Qdrant"
  | .milvus => "Milvus"
  | .weaviate => "Weaviate"
  | .pinecone => "Pinecone"
  | .chroma => "Chroma"
  | .pgvector => "pgvector"
  | .elasticsearch => "Elasticsearch"
  | .opensearch => "OpenSearch"
  | .meilisearch => "Meilisearch"
  | .typesense => "Typesense"
  | .arangodb => "ArangoDB"
  | .surrealdb => "SurrealDB"
  | .orientdb => "OrientDB"
  | .postgis => "PostGIS"
  | .spatialite => "SpatiaLite"
  | .memcached => "Memcached"
  | .dragonfly => "Dragonfly"
  | .clickhouse => "ClickHouse"
  | .duckdb => "DuckDB"
  | .druid => "Apache Druid"
  | .snowflake => "Snowflake"
  | .bigquery => "BigQuery"
  | .cockroachdb => "CockroachDB"
  | .tidb => "TiDB"
  | .yugabytedb => "YugabyteDB"
  | .sqlite => "SQLite"
  | .rocksdb => "RocksDB"
  | .libsql => "LibSQL / Turso"
  | .valTown => "Val Town"
  | .cloudflareD1 => "Cloudflare D1"
  | .spacetimedb => "SpacetimeDB"
  | .s3 => "Amazon S3"
  | .minio => "MinIO"
  | .cloudflareR2 => "Cloudflare R2"
  | .supabase => "Supabase"
  | .planetscale => "PlanetScale"
  | .planetscalePostgres => "PlanetScale Postgres"
  | .neon => "Neon"
  | .immudb => "immudb"
  | .qldb => "Amazon QLDB"
  | .kafka => "Apache Kafka"
  | .redpanda => "Redpanda"
  | .rabbitmq => "RabbitMQ"
  | .convex => "Convex"
  | .objectdb => "ObjectDB"
  | .ibmIms => "IBM IMS"
  | .raimaRdm => "Raima RDM"
  | .basex => "BaseX"
  | .existdb => "eXist-db"
  | .apacheJena => "Apache Jena"
  | .graphdb => "GraphDB"
  | .stardog => "Stardog"
  | .blazegraph => "Blazegraph"
  | .virtuoso => "Virtuoso"

end DbFree
